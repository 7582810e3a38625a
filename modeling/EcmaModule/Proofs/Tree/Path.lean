import EcmaModule.Proofs.Value.Holds
import EcmaModule.Tree.Walk
import Mathlib.Data.List.Forall2
import Mathlib.Data.List.Infix
import Mathlib.Data.List.Nodup

/-! The nodes of a tree, by the paths that lead to them.

A path goes down through fields and items. It is live if it ends at a node, has no object before
its end that is no node, and enters no location data. Walking a tree meets the node at the
end of each live path, once, in the order of the paths, and below the nearest object on the way
(`visits_live`).

Everything rests on one equation: the visits of a value are its own, if it is a node, and then
those of what it leads to, step by step (`visitsBelow_eq`). -/
namespace EcmaModule.Tree

open Value (DistinctKeys)

/-! ### Paths -/

/-- A step down: to a field of an object, or to an item of an array. -/
inductive Step where
  | field (key : Text)
  | item (index : Nat)
  deriving DecidableEq, Repr

abbrev Path := List Step

/-- What a step leads to. -/
def child? : Value → Step → Option Value
  | .object fields, .field key => Value.lookup fields key
  | .array items, .item i => items[i]?
  | _, _ => none

/-- The value at the end of a path. -/
def at? (root : Value) : Path → Option Value
  | [] => some root
  | s :: rest => (child? root s).bind fun v => at? v rest

/-- The node at the end of a path. -/
def nodeAt? (root : Value) (path : Path) : Option Node := (at? root path).bind node?

/-- The place of a step among those down from a value. -/
def rank : Value → Step → Nat
  | .object fields, .field key => fields.findIdx fun f => f.1 == key
  | _, .item i => i
  | _, .field _ => 0

/-- The places of the steps of a path. A path comes before another if its places do in
lexicographic order, so before whatever goes on from it. -/
def ranks (root : Value) : Path → List Nat
  | [] => []
  | s :: rest => rank root s :: ((child? root s).map fun v => ranks v rest).getD []

/-- A walk visits the end of the path. -/
structure Live (root : Value) (path : Path) : Prop where
  ends : (nodeAt? root path).isSome = true
  above : ∀ before fields, before <+: path → before ≠ path → at? root before = some (.object fields) →
    (nodeOf? fields).isSome = true
  apart : ∀ key, .field key ∈ path → key ≠ Text.ofString "loc" ∧ key ≠ Text.ofString "range"

def isObject : Value → Bool
  | .object _ => true
  | _ => false

/-- The nearest object properly above the end of a path. -/
def objectAbove? (root : Value) (path : Path) : Option Value :=
  path.inits.dropLast.reverse.findSome? fun before => (at? root before).filter isObject

/-- The visit of the end of a path: the node there, and the node that the nearest object above it is. -/
structure Visit.At (root : Value) (path : Path) (v : Visit) : Prop where
  node : nodeAt? root path = some v.node
  parent : (objectAbove? root path).map node? = v.parent.map some

/-! ### One step -/

/-- The steps down from a value, in order, with what they lead to. -/
def steps : Value → List (Step × Value)
  | .object fields => fields.map fun f => (.field f.1, f.2)
  | .array items => items.zipIdx.map fun p => (.item p.2, p.1)
  | _ => []

def Step.isLocation : Step → Bool
  | .field key => Tree.isLocation key
  | .item _ => false

/-- A walk goes on below arrays and nodes. -/
def isOpen (v : Value) : Bool := v.isArray || (node? v).isSome

/-- The steps that a walk takes from a value. -/
def taken (v : Value) : List (Step × Value) :=
  if isOpen v then (steps v).filter fun s => !s.1.isLocation else []

theorem at_cons {v c : Value} {s : Step} (h : child? v s = some c) (rest : Path) :
    at? v (s :: rest) = at? c rest := by
  rw [at?, h, Option.bind_some]

theorem visitsOfItems_eq (parent : Option Node) (items : List Value) :
    visitsOfItems parent items = items.flatMap (visitsBelow parent) := by
  induction items with
  | nil => rfl
  | cons v rest ih => rw [visitsOfItems, ih, List.flatMap_cons]

theorem visitsOfFields_eq (parent : Option Node) (fields : Value.Fields) :
    visitsOfFields parent fields =
      (fields.filter fun f => !isLocation f.1).flatMap fun f => visitsBelow parent f.2 := by
  induction fields with
  | nil => rfl
  | cons f rest ih =>
    rw [visitsOfFields, ih]
    cases hf : isLocation f.1 <;> simp [hf]

theorem taken_array (items : List Value) :
    taken (.array items) = items.zipIdx.map fun p => (.item p.2, p.1) := by
  show (items.zipIdx.map _).filter _ = _
  exact List.filter_eq_self.mpr fun s hs => by
    obtain ⟨p, -, rfl⟩ := List.mem_map.mp hs
    rfl

theorem taken_object {fields : Value.Fields} (h : (nodeOf? fields).isSome = true) :
    taken (.object fields) = (fields.filter fun f => !isLocation f.1).map fun f => (.field f.1, f.2) := by
  have hopen : isOpen (.object fields) = true := h
  rw [taken, if_pos hopen, steps, List.filter_map]
  rfl

/-- **The visits of a value**: its own, if it is a node, then those below, step by step. -/
theorem visitsBelow_eq (parent : Option Node) (v : Value) :
    visitsBelow parent v =
      ((node? v).map fun n => (⟨n, parent⟩ : Visit)).toList ++
        (taken v).flatMap fun s => visitsBelow ((node? v).or parent) s.2 := by
  cases v with
  | array items =>
    rw [visitsBelow, visitsOfItems_eq, taken_array, List.flatMap_map]
    calc items.flatMap (visitsBelow parent)
        = (items.zipIdx.map Prod.fst).flatMap (visitsBelow parent) := by rw [List.zipIdx_map_fst]
      _ = items.zipIdx.flatMap fun p => visitsBelow parent p.1 := List.flatMap_map ..
  | object fields =>
    rw [visitsBelow]
    show _ = ((nodeOf? fields).map _).toList ++
      (taken _).flatMap fun s => visitsBelow ((nodeOf? fields).or parent) s.2
    cases hnode : nodeOf? fields with
    | none => simp [taken, isOpen, Value.isArray, node?, hnode]
    | some n =>
      rw [taken_object (by rw [hnode]; rfl), List.flatMap_map]
      simp [visitsOfFields_eq]
  | undefined | null | bool | number | bigint | regexp | string | enclosing => rfl

theorem sizeOf_taken {v : Value} {s : Step × Value} (h : s ∈ taken v) : sizeOf s.2 < sizeOf v := by
  have hstep : s ∈ steps v := by
    unfold taken at h
    split at h
    · exact List.mem_of_mem_filter h
    · exact absurd h List.not_mem_nil
  cases v with
  | array items =>
    obtain ⟨p, hp, rfl⟩ := List.mem_map.mp hstep
    have := List.sizeOf_lt_of_mem (List.fst_mem_of_mem_zipIdx hp)
    simp only [Value.array.sizeOf_spec]
    omega
  | object fields =>
    obtain ⟨f, hf, rfl⟩ := List.mem_map.mp hstep
    have := List.sizeOf_lt_of_mem hf
    obtain ⟨key, u⟩ := f
    simp only [Value.object.sizeOf_spec, Prod.mk.sizeOf_spec] at this ⊢
    omega
  | undefined | null | bool | number | bigint | regexp | string | enclosing =>
    exact absurd hstep List.not_mem_nil

/-- What holds of a value if it holds of all that a walk goes on to, holds of all values. -/
theorem taken_induction {P : Value → Prop} (h : ∀ v, (∀ s ∈ taken v, P s.2) → P v) (v : Value) : P v :=
  h v fun s _ => taken_induction h s.2
termination_by sizeOf v
decreasing_by exact sizeOf_taken ‹_›

/-! ### Steps of a tree -/

section Keyed
variable {v : Value} (hv : v.Everywhere DistinctKeys)
include hv

theorem mem_steps_iff {s : Step} {c : Value} :
    (s, c) ∈ steps v ↔ child? v s = some c := by
  cases v with
  | array items =>
    cases s with
    | field key => simp [steps, child?]
    | item i => simp [steps, child?, List.mk_mem_zipIdx_iff_getElem?]
  | object fields =>
    cases s with
    | field key =>
      rw [child?, Value.lookup_eq_some_iff hv.self]
      simp [steps]
    | item i => simp [steps, child?]
  | undefined | null | bool | number | bigint | regexp | string | enclosing => simp [steps, child?]

theorem mem_taken_iff {s : Step} {c : Value} :
    (s, c) ∈ taken v ↔ isOpen v = true ∧ s.isLocation = false ∧ child? v s = some c := by
  unfold taken
  split
  · next hopen => simp [mem_steps_iff hv, hopen, and_comm]
  · next hopen => simp [hopen]

theorem child_keyed {s : Step} {c : Value} (h : child? v s = some c) : c.Everywhere DistinctKeys := by
  cases v with
  | array items =>
    cases s with
    | field key => cases h
    | item i => exact (Value.everywhere_array_iff.mp hv).2 c (List.mem_of_getElem? h)
  | object fields =>
    cases s with
    | field key =>
      have hfield := (Value.lookup_eq_some_iff hv.self).mp h
      exact (Value.everywhere_object_iff.mp hv).2 (key, c) hfield
    | item i => cases h
  | undefined | null | bool | number | bigint | regexp | string | enclosing => cases h

theorem taken_keyed {s : Step × Value} (hs : s ∈ taken v) : s.2.Everywhere DistinctKeys :=
  child_keyed hv ((mem_taken_iff hv).mp hs).2.2

/-- The steps down from a value come in the order of their places. -/
theorem steps_ranked : (steps v).Pairwise fun a b => rank v a.1 < rank v b.1 := by
  cases v with
  | array items =>
    have hplaces : (items.zipIdx.map Prod.snd).Pairwise (· < ·) := by
      rw [List.zipIdx_map_snd]
      exact List.pairwise_lt_range'
    exact List.pairwise_map.mpr (List.pairwise_map.mp hplaces)
  | object fields =>
    have hplace (i : Nat) (hi : i < fields.length) :
        (fields.findIdx fun f => f.1 == fields[i].1) = i := by
      refine (List.findIdx_eq hi).mpr ⟨beq_self_eq_true _, fun j hj => ?_⟩
      have hdiffer := List.pairwise_iff_getElem.mp hv.self j i (by simp; omega) (by simpa) hj
      simpa using hdiffer
    refine List.pairwise_map.mpr (List.pairwise_iff_getElem.mpr fun i j hi hj hij => ?_)
    show (fields.findIdx _) < fields.findIdx _
    rw [hplace i hi, hplace j hj]
    exact hij
  | undefined | null | bool | number | bigint | regexp | string | enclosing => exact .nil

theorem taken_ranked : (taken v).Pairwise fun a b => rank v a.1 < rank v b.1 := by
  unfold taken
  split
  · exact (steps_ranked hv).filter _
  · exact .nil

end Keyed

/-! ### Live paths -/

/-- The live paths of a value, in order. -/
def livePaths (v : Value) : List Path :=
  ((node? v).map fun _ => []).toList ++
    (taken v).attach.flatMap fun s => (livePaths s.1.2).map (s.1.1 :: ·)
termination_by sizeOf v
decreasing_by exact sizeOf_taken s.2

theorem livePaths_eq (v : Value) :
    livePaths v = ((node? v).map fun _ => []).toList ++
      (taken v).flatMap fun s => (livePaths s.2).map (s.1 :: ·) := by
  have hbelow := List.flatMap_map Subtype.val (fun s : Step × Value => (livePaths s.2).map (s.1 :: ·))
    (taken v).attach
  rw [List.attach_map_subtype_val] at hbelow
  rw [livePaths, hbelow]

theorem isLocation_eq_false_iff {key : Text} :
    isLocation key = false ↔ key ≠ Text.ofString "loc" ∧ key ≠ Text.ofString "range" := by
  simp [isLocation]

theorem live_nil_iff {v : Value} : Live v [] ↔ (node? v).isSome = true := by
  refine ⟨Live.ends, fun h => ⟨h, fun before fields hprefix hne _ => ?_, fun key hkey => ?_⟩⟩
  · exact absurd (List.prefix_nil.mp hprefix) hne
  · exact absurd hkey List.not_mem_nil

/-- What a step leads down from is an array or an object. -/
theorem isOpen_of_child {v c : Value} {s : Step} (h : child? v s = some c)
    (hnode : ∀ fields, v = .object fields → (nodeOf? fields).isSome = true) : isOpen v = true := by
  cases v with
  | array items => rfl
  | object fields => exact hnode fields rfl
  | undefined | null | bool | number | bigint | regexp | string | enclosing => cases h

section Keyed
variable {v : Value} (hv : v.Everywhere DistinctKeys)
include hv

theorem live_cons_iff {s : Step} {rest : Path} :
    Live v (s :: rest) ↔ ∃ c, (s, c) ∈ taken v ∧ Live c rest := by
  constructor
  · intro h
    obtain ⟨n, hends⟩ := Option.isSome_iff_exists.mp h.ends
    obtain ⟨u, hat, hnode⟩ := Option.bind_eq_some_iff.mp hends
    obtain ⟨c, hchild, hbelow⟩ := Option.bind_eq_some_iff.mp hat
    have hopen : isOpen v = true := isOpen_of_child hchild fun fields hfields =>
      h.above [] fields List.nil_prefix nofun (congrArg some hfields)
    have hlocation : s.isLocation = false := by
      cases s with
      | field key => exact isLocation_eq_false_iff.mpr (h.apart key List.mem_cons_self)
      | item i => rfl
    refine ⟨c, (mem_taken_iff hv).mpr ⟨hopen, hlocation, hchild⟩, ?_,
      fun before fields hprefix hne hobject => ?_, fun key hkey => h.apart key (List.mem_cons_of_mem s hkey)⟩
    · rw [nodeAt?, hbelow, Option.bind_some, hnode]
      rfl
    · exact h.above (s :: before) fields (List.cons_prefix_cons.mpr ⟨rfl, hprefix⟩)
        (fun heq => hne (List.cons.inj heq).2) ((at_cons hchild before).trans hobject)
  · rintro ⟨c, hstep, h⟩
    obtain ⟨hopen, hlocation, hchild⟩ := (mem_taken_iff hv).mp hstep
    refine ⟨?_, fun before fields hprefix hne hobject => ?_, fun key hkey => ?_⟩
    · rw [nodeAt?, at_cons hchild]
      exact h.ends
    · cases before with
      | nil =>
        obtain rfl : v = .object fields := Option.some.inj hobject
        exact hopen
      | cons s' before =>
        obtain ⟨rfl, hbefore⟩ := List.cons_prefix_cons.mp hprefix
        exact h.above before fields hbefore (fun heq => hne (congrArg (s' :: ·) heq))
          ((at_cons hchild before).symm.trans hobject)
    · rcases List.mem_cons.mp hkey with rfl | hkey
      · exact isLocation_eq_false_iff.mp hlocation
      · exact h.apart key hkey

theorem mem_livePaths_iff {path : Path} : path ∈ livePaths v ↔ Live v path := by
  induction path generalizing v with
  | nil =>
    rw [livePaths_eq, live_nil_iff]
    cases node? v <;> simp
  | cons s rest ih =>
    have hstep : s :: rest ∈ livePaths v ↔ ∃ c, (s, c) ∈ taken v ∧ rest ∈ livePaths c := by
      rw [livePaths_eq]
      cases node? v <;> simp
    rw [hstep, live_cons_iff hv]
    exact exists_congr fun c => and_congr_right fun hc => ih (taken_keyed hv hc)

/-! ### Order -/

theorem ranks_cons {s : Step × Value} (hs : s ∈ taken v) (rest : Path) :
    ranks v (s.1 :: rest) = rank v s.1 :: ranks s.2 rest := by
  obtain ⟨-, -, hchild⟩ := (mem_taken_iff hv).mp hs
  rw [ranks, hchild]
  rfl

theorem livePaths_ordered : (livePaths v).Pairwise fun a b => ranks v a < ranks v b := by
  induction v using taken_induction with
  | h v ih =>
    rw [livePaths_eq]
    refine List.pairwise_append.mpr ⟨?_, List.pairwise_flatMap.mpr ⟨fun s hs => ?_, ?_⟩, ?_⟩
    · cases node? v
      · exact .nil
      · exact List.pairwise_singleton _ _
    · -- Below one step, the paths are ordered as they are there.
      refine List.pairwise_map.mpr ((ih s hs (taken_keyed hv hs)).imp fun h => ?_)
      rw [ranks_cons hv hs, ranks_cons hv hs]
      exact List.cons_lt_cons_iff.mpr (.inr ⟨rfl, h⟩)
    · -- Below two steps, the first step decides.
      refine (taken_ranked hv).imp_of_mem fun {s t} hs ht hst a ha b hb => ?_
      obtain ⟨p, -, rfl⟩ := List.mem_map.mp ha
      obtain ⟨q, -, rfl⟩ := List.mem_map.mp hb
      rw [ranks_cons hv hs, ranks_cons hv ht]
      exact List.cons_lt_cons_iff.mpr (.inl hst)
    · intro a ha b hb
      obtain ⟨s, hs, hb⟩ := List.mem_flatMap.mp hb
      obtain ⟨q, -, rfl⟩ := List.mem_map.mp hb
      obtain ⟨n, -, rfl⟩ := Option.map_eq_some_iff.mp (Option.mem_toList.mp ha)
      rw [ranks_cons hv hs]
      exact List.nil_lt_cons _ _

end Keyed

/-! ### Visits -/

theorem objectAbove_cons {v c : Value} {s : Step} (h : child? v s = some c) (rest : Path) :
    objectAbove? v (s :: rest) = (objectAbove? c rest).or ((some v).filter isObject) := by
  have hne : rest.inits.map (s :: ·) ≠ [] := by simp [← List.length_pos_iff]
  unfold objectAbove?
  rw [List.inits_cons, List.dropLast_cons_of_ne_nil hne, List.reverse_cons, List.findSome?_append,
    ← List.map_dropLast, ← List.map_reverse, List.findSome?_map]
  simp only [Function.comp_def, at_cons h, List.findSome?_singleton]
  rfl

/-- The visit of the end of a path below a node. -/
structure Visit.Below (parent : Option Node) (v : Value) (path : Path) (visit : Visit) : Prop where
  node : nodeAt? v path = some visit.node
  parent : ((objectAbove? v path).map node?).or (parent.map some) = visit.parent.map some

section Keyed
variable {v : Value} (hv : v.Everywhere DistinctKeys) (parent : Option Node)
include hv

theorem Visit.Below.cons {s : Step × Value} (hs : s ∈ taken v) {path : Path} {visit : Visit}
    (h : visit.Below ((node? v).or parent) s.2 path) : visit.Below parent v (s.1 :: path) := by
  obtain ⟨hopen, -, hchild⟩ := (mem_taken_iff hv).mp hs
  refine ⟨?_, ?_⟩
  · rw [nodeAt?, at_cons hchild]
    exact h.node
  · rw [← h.parent, objectAbove_cons hchild]
    cases v with
    | array items => simp [isObject, node?, Option.filter]
    | object fields =>
      obtain ⟨n, hn⟩ := Option.isSome_iff_exists.mp (show (nodeOf? fields).isSome = true from hopen)
      cases objectAbove? s.2 path <;> simp [isObject, node?, hn]
    | undefined | null | bool | number | bigint | regexp | string | enclosing => cases hchild

theorem visitsBelow_livePaths :
    List.Forall₂ (fun path visit => visit.Below parent v path) (livePaths v) (visitsBelow parent v) := by
  induction v using taken_induction generalizing parent with
  | h v ih =>
    rw [livePaths_eq, visitsBelow_eq]
    refine List.rel_append ?_ ?_
    · cases hnode : node? v with
      | none => exact .nil
      | some n => exact .cons ⟨hnode, rfl⟩ .nil
    · have hsteps : List.Forall₂ (fun s t => s = t ∧ s ∈ taken v) (taken v) (taken v) :=
        List.forall₂_same.mpr fun s hs => ⟨rfl, hs⟩
      refine List.rel_flatMap hsteps ?_
      rintro s _ ⟨rfl, hs⟩
      refine List.forall₂_map_left_iff.mpr ((ih s hs (taken_keyed hv hs) _).imp fun path visit h => ?_)
      exact h.cons hv parent hs

end Keyed

/-- **A walk visits the ends of the live paths**, each once, in the order of the paths, and below
the nodes that the nearest objects above them are. -/
theorem visits_live (root : Value) (hroot : root.Everywhere DistinctKeys) :
    ∃ paths : List Path, (∀ path, path ∈ paths ↔ Live root path) ∧ paths.Nodup ∧
      (paths.Pairwise fun a b => ranks root a < ranks root b) ∧
      List.Forall₂ (fun path visit => visit.At root path) paths (visits root) := by
  have hordered := livePaths_ordered hroot
  refine ⟨livePaths root, fun _ => mem_livePaths_iff hroot, hordered.imp ?_, hordered, ?_⟩
  · rintro a _ hlt rfl
    exact absurd hlt (List.lt_irrefl _)
  · refine (visitsBelow_livePaths hroot none).imp fun path visit h => ⟨h.node, ?_⟩
    rw [← h.parent]
    exact (Option.or_none ..).symm

/-- In a node that holds another one in nested arrays, below an object that is no node and as
location data, the one in the arrays is the only one visited below it. -/
theorem nestedArrays_visits :
    let node (kind : Text) (more : Value.Fields) : Value :=
      .object (("type", .string kind) :: ("start", .number (.int 0)) :: ("end", .number (.int 1)) :: more)
    let leaf := node "Identifier" []
    let root := node "Program"
      [("loc", leaf), ("body", .array [.array [leaf]]), ("extra", .object [("node", leaf)])]
    root.Everywhere DistinctKeys ∧
      ∃ paths : List Path, (∀ path, path ∈ paths ↔ Live root path) ∧ paths.length = 2 := by
  intro node leaf root
  have htext (t : Text) : (Value.string t).Everywhere DistinctKeys :=
    Value.everywhere_leaf nofun nofun trivial
  have hnumber (n : Number) : (Value.number n).Everywhere DistinctKeys :=
    Value.everywhere_leaf nofun nofun trivial
  have harray (items : List Value) : DistinctKeys (.array items) := trivial
  have hleaf : leaf.Everywhere DistinctKeys :=
    Value.everywhere_object_iff.mpr ⟨by unfold DistinctKeys; decide, by simp [htext, hnumber]⟩
  have hextra : (Value.object [("node", leaf)]).Everywhere DistinctKeys :=
    Value.everywhere_object_iff.mpr ⟨by unfold DistinctKeys; decide, by simp [hleaf]⟩
  have hroot : root.Everywhere DistinctKeys :=
    Value.everywhere_object_iff.mpr ⟨by unfold DistinctKeys; decide, by
      simp [htext, hnumber, harray, hleaf, hextra, Value.everywhere_array_iff]⟩
  obtain ⟨paths, hlive, -, -, hvisits⟩ := visits_live root hroot
  exact ⟨hroot, paths, hlive, hvisits.length_eq.trans (by decide +kernel)⟩

end EcmaModule.Tree
