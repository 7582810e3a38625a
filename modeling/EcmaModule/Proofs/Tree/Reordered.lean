import EcmaModule.Proofs.Tree.Path
import EcmaModule.Proofs.Value.Reordered

/-! Walks of trees that are equal but for the order of fields.

Such trees have nodes in the same places, and these are again equal but for the order of
fields (`node_reordered`). Walks meet them in different orders; what is read off them in one
walk is read off them in the other, as often (`read_reordered`). -/
namespace EcmaModule.Tree

open Value (DistinctKeys Reordered)

/-- Nodes that are equal but for the order of fields. -/
structure Node.Reordered (n m : Node) : Prop where
  kind : m.kind = n.kind
  start : m.start = n.start
  keyed : (Value.object n.fields).Everywhere DistinctKeys
  fields : Value.Reordered (.object n.fields) (.object m.fields)

theorem get_of_lookup {fields : Value.Fields} {key : Text} {v : Value}
    (h : Value.lookup fields key = some v) : (Value.object fields).get key = v := by
  rw [Value.get, h]
  rfl

/-- Whatever is got from a field and is not undefined is in it. -/
theorem lookup_of_get {fields : Value.Fields} {key : Text} {v : Value}
    (h : (Value.object fields).get key = v) (hv : v ≠ .undefined) : Value.lookup fields key = some v := by
  rw [Value.get] at h
  cases hlookup : Value.lookup fields key with
  | none => exact absurd (h.symm.trans (by rw [hlookup]; rfl)) hv
  | some w =>
    rw [hlookup] at h
    exact congrArg some h

/-- What three fields of an object say makes it a node. -/
theorem nodeOf_eq_some_iff {fields : Value.Fields} {n : Node} :
    nodeOf? fields = some n ↔ n.fields = fields ∧ n.get "type" = .string n.kind ∧
      n.get "start" = .number n.start ∧ n.get "end" = .number n.stop := by
  constructor
  · intro h
    unfold nodeOf? at h
    split at h
    · next kind start stop htype hstart hstop =>
      cases h
      exact ⟨rfl, get_of_lookup htype, get_of_lookup hstart, get_of_lookup hstop⟩
    · cases h
  · rintro ⟨rfl, htype, hstart, hstop⟩
    rw [nodeOf?, lookup_of_get htype nofun, lookup_of_get hstart nofun, lookup_of_get hstop nofun]

theorem Node.Reordered.get {n m : Node} (h : n.Reordered m) (key : Text) :
    Value.Reordered (n.get key) (m.get key) :=
  Value.Reordered.get h.fields h.keyed key

theorem Node.Reordered.get_keyed {n m : Node} (h : n.Reordered m) (key : Text) :
    (n.get key).Everywhere DistinctKeys :=
  Value.get_keyed h.keyed key

theorem node_reordered {v w : Value} (h : Reordered v w) (hv : v.Everywhere DistinctKeys) {n : Node}
    (hnode : node? v = some n) : ∃ m, node? w = some m ∧ n.Reordered m := by
  cases v with
  | object fields =>
    obtain ⟨rfl, htype, hstart, hstop⟩ := nodeOf_eq_some_iff.mp hnode
    have hget (key : Text) : Reordered (n.get key) (w.get key) := h.get hv key
    have htype := (htype ▸ hget "type").string
    have hstart := (hstart ▸ hget "start").number
    have hstop := (hstop ▸ hget "end").number
    obtain ⟨fields', rfl⟩ : ∃ fields', w = .object fields' := by
      cases h <;> exact ⟨_, rfl⟩
    exact ⟨⟨n.kind, n.start, n.stop, fields'⟩, nodeOf_eq_some_iff.mpr ⟨rfl, htype, hstart, hstop⟩,
      rfl, rfl, hv, h⟩
  | array | undefined | null | bool | number | bigint | regexp | string | enclosing => cases hnode

theorem Node.Reordered.symm {n m : Node} (h : n.Reordered m) : m.Reordered n :=
  ⟨h.kind.symm, h.start.symm, h.fields.keyed h.keyed, h.fields.symm⟩

/-! ### Walks -/

theorem visitsBelow_nodes (parent : Option Node) (v : Value) :
    (visitsBelow parent v).map Visit.node = (visits v).map Visit.node := by
  induction v using taken_induction generalizing parent with
  | h v ih =>
    rw [visits, visitsBelow_eq, visitsBelow_eq none, List.map_append, List.map_append, List.map_flatMap,
      List.map_flatMap]
    congr 1
    · cases node? v <;> rfl
    · exact List.flatMap_congr fun s hs => (ih s hs _).trans (ih s hs _).symm

section Walk
variable {β : Type} (read : Node → Option β)

/-- What is read off the nodes of a value, in the order of a walk. -/
def readAll (v : Value) : List β := (visits v).filterMap fun visit => read visit.node

/-- It does not matter below which node the value is. -/
theorem readAll_below (parent : Option Node) (v : Value) :
    (visitsBelow parent v).filterMap (fun visit => read visit.node) = readAll read v := by
  have hnodes := congrArg (List.filterMap read) (visitsBelow_nodes parent v)
  rwa [List.filterMap_map, List.filterMap_map] at hnodes

theorem readAll_array (items : List Value) :
    readAll read (.array items) = items.flatMap (readAll read) := by
  rw [readAll, visits, visitsBelow, visitsOfItems_eq, List.filterMap_flatMap]
  rfl

theorem readAll_node {fields : Value.Fields} {n : Node} (h : nodeOf? fields = some n) :
    readAll read (.object fields) =
      (read n).toList ++ (fields.filter fun f => !isLocation f.1).flatMap fun f => readAll read f.2 := by
  rw [readAll, visits, visitsBelow, h]
  show ((⟨n, none⟩ : Visit) :: visitsOfFields (some n) fields).filterMap _ = _
  rw [visitsOfFields_eq, List.filterMap_cons, List.filterMap_flatMap]
  simp only [readAll_below]
  cases read n <;> rfl

theorem readAll_object {fields : Value.Fields} (h : nodeOf? fields = none) :
    readAll read (.object fields) = [] := by
  rw [readAll, visits, visitsBelow, h]
  rfl

theorem forall₂_flatMap_perm {α α' γ : Type} {f : α → List γ} {g : α' → List γ} {xs : List α} {ys : List α'}
    (h : List.Forall₂ (fun x y => (f x).Perm (g y)) xs ys) : (xs.flatMap f).Perm (ys.flatMap g) := by
  induction h with
  | nil => exact .refl _
  | cons h _ ih =>
    rw [List.flatMap_cons, List.flatMap_cons]
    exact h.append ih

/-- **In trees that are equal but for the order of fields, walks read the same**, if the order of
fields does not matter to what is read off a node. -/
theorem read_reordered (hread : ∀ n m : Node, n.Reordered m → read n = read m) {v w : Value}
    (h : Reordered v w) (hv : v.Everywhere DistinctKeys) : (readAll read v).Perm (readAll read w) := by
  induction h with
  | refl v => exact .refl _
  | @array items items' hlength _ ih =>
    obtain ⟨-, hitems⟩ := Value.everywhere_array_iff.mp hv
    rw [readAll_array, readAll_array]
    refine forall₂_flatMap_perm (List.forall₂_iff_get.mpr ⟨hlength, fun i hi hi' => ?_⟩)
    exact ih i _ _ (List.getElem?_eq_getElem hi) (List.getElem?_eq_getElem hi') (hitems _ (List.get_mem _ _))
  | @object fields fields' hkeys h ih =>
    obtain ⟨-, hfields⟩ := Value.everywhere_object_iff.mp hv
    have hobjects : Reordered (.object fields) (.object fields') := .object hkeys h
    cases hnode : nodeOf? fields with
    | none =>
      have hnone : nodeOf? fields' = none := by
        by_contra hsome
        obtain ⟨m, hm⟩ := Option.ne_none_iff_exists'.mp hsome
        obtain ⟨n, hn, -⟩ := node_reordered hobjects.symm (hobjects.keyed hv) hm
        rw [node?, hnode] at hn
        cases hn
      rw [readAll_object read hnode, readAll_object read hnone]
    | some n =>
      obtain ⟨m, hm, hnm⟩ := node_reordered hobjects hv hnode
      obtain ⟨fields'', hperm, hmatch⟩ := Value.keys_matched hkeys
      rw [readAll_node read hnode, readAll_node read hm, hread n m hnm]
      refine .append_left _ (.trans ?_ ((hperm.filter _).flatMap_right _))
      -- Fields that match are both location data, or neither is.
      have hkept : ∀ f g : Text × Value, f ∈ fields ∧ (f.1, g.2) ∈ fields' ∧ f.1 = g.1 →
          ((!isLocation f.1) = true ↔ (!isLocation g.1) = true) := fun f g hfg => by rw [hfg.2.2]
      refine forall₂_flatMap_perm ((List.rel_filter hkept hmatch).imp fun f g hfg => ?_)
      obtain ⟨hf, hg, -⟩ := hfg
      exact ih f.1 f.2 g.2 hf hg (hfields f hf)

end Walk

end EcmaModule.Tree
