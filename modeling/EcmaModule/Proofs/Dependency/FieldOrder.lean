import EcmaModule.Proofs.Dependency.Listing
import EcmaModule.Proofs.Tree.Reordered

/-! Dependencies of trees that are equal but for the order of fields.

Nodes of such trees refer to the same modules (`Refers.reordered`), but walks meet them in
different orders. The order of the list is that of the starts, so it shows none of this, as long
as nodes that refer to different modules start differently (`collect_reordered`). -/
namespace EcmaModule.Dependency

open EcmaModule.Tree List
open Value (DistinctKeys Reordered)

/-! ### References -/

theorem Names.reordered {v w : Value} {s : Text} (h : Names v s) (hvw : Reordered v w)
    (hv : v.Everywhere DistinctKeys) : Names w s := by
  cases h with
  | literal hnode hkind hvalue =>
    obtain ⟨m, hm, hnm⟩ := node_reordered hvw hv hnode
    exact .literal hm (hnm.kind.trans hkind) (hvalue ▸ hnm.get "value").string
  | template hnode hkind hexpressions hquasis hquasi hcooked =>
    obtain ⟨m, hm, hnm⟩ := node_reordered hvw hv hnode
    obtain ⟨none, hexpressions', hnone⟩ := (hexpressions ▸ hnm.get "expressions").items
    obtain ⟨parts, hquasis', hparts⟩ := (hquasis ▸ hnm.get "quasis").items
    obtain rfl := forall₂_nil_left_iff.mp hnone
    obtain ⟨quasi', rest', hfirst, -, rfl⟩ := forall₂_cons_left_iff.mp hparts
    obtain ⟨-, hkeyed⟩ := Value.everywhere_array_iff.mp (hquasis ▸ hnm.get_keyed "quasis")
    obtain ⟨q', hq', hqq'⟩ := node_reordered hfirst (hkeyed _ mem_cons_self) hquasi
    have hcooked' := (hqq'.get "value").get (hqq'.get_keyed "value") "cooked"
    exact .template hm (hnm.kind.trans hkind) hexpressions' hquasis' hq' (hcooked ▸ hcooked').string

theorem Refers.reordered {dynamic : Bool} {n m : Node} {s : Text} (h : Refers dynamic n s)
    (hnm : n.Reordered m) : Refers dynamic m s := by
  have hsource (h : Names (n.get "source") s) : Names (m.get "source") s :=
    h.reordered (hnm.get "source") (hnm.get_keyed "source")
  cases h with
  | declaration hkind h => exact .declaration (hnm.kind ▸ hkind) (hsource h)
  | importing hdynamic hkind h => exact .importing hdynamic (hnm.kind.trans hkind) (hsource h)
  | equals hkind href hexternal h =>
    obtain ⟨r', hr', hrr'⟩ := node_reordered (hnm.get _) (hnm.get_keyed _) href
    exact .equals (hnm.kind.trans hkind) hr' (hrr'.kind.trans hexternal)
      (h.reordered (hrr'.get _) (hrr'.get_keyed _))
  | require hkind hcallee hidentifier hname harguments h =>
    obtain ⟨callee', hcallee', hcc'⟩ := node_reordered (hnm.get _) (hnm.get_keyed _) hcallee
    obtain ⟨arguments', harguments', hall⟩ := (harguments ▸ hnm.get "arguments").items
    obtain ⟨first', rest', hfirst, -, rfl⟩ := forall₂_cons_left_iff.mp hall
    obtain ⟨-, hkeyed⟩ := Value.everywhere_array_iff.mp (harguments ▸ hnm.get_keyed "arguments")
    exact .require (hnm.kind.trans hkind) hcallee' (hcc'.kind.trans hidentifier)
      (hname ▸ hcc'.get "name").string harguments' (h.reordered hfirst (hkeyed _ mem_cons_self))

theorem specifierFor_reordered (dynamic : Bool) {n m : Node} (h : n.Reordered m) :
    specifierFor? dynamic n = specifierFor? dynamic m := by
  refine Option.ext fun s => ?_
  rw [specifierFor_eq_some_iff, specifierFor_eq_some_iff]
  exact ⟨fun hrefers => hrefers.reordered h, fun hrefers => hrefers.reordered h.symm⟩

/-- Such trees have the same references, in whatever order walks meet them. -/
theorem references_reordered (dynamic : Bool) {t t' : Value} (h : Reordered t t')
    (ht : t.Everywhere DistinctKeys) : references dynamic t ~ references dynamic t' := by
  refine read_reordered (fun n => (specifierFor? dynamic n).map fun s => (⟨n.start, s⟩ : Reference))
    (fun n m hnm => ?_) h ht
  rw [specifierFor_reordered dynamic hnm, hnm.start]

/-! ### Order -/

/-- One module is referred to ahead of all references to another one. -/
def Ahead (found : List Reference) (a b : Text) : Prop :=
  ∃ r ∈ found, r.specifier = a ∧ ∀ q ∈ found, q.specifier = b → r.start.lt q.start = true

/-- References to different modules start differently. -/
def Apart (found : List Reference) : Prop :=
  ∀ r ∈ found, ∀ q ∈ found, r.specifier ≠ q.specifier → r.start.Differ q.start

theorem Ahead.asymm {found : List Reference} {a b : Text} (h : Ahead found a b) : ¬ Ahead found b a := by
  obtain ⟨r, hr, hra, hahead⟩ := h
  rintro ⟨q, hq, hqb, hbehind⟩
  exact absurd (hbehind r hr hra) (by simp [Number.lt_asymm (hahead q hq hqb)])

section Listing
variable {dynamic : Bool} {tree : Value}

/-- Where there are two modules, starts that differ can be compared. -/
theorem Apart.comparable (h : Apart (references dynamic tree)) {a b : Text} (hne : a ≠ b)
    (ha : a ∈ collect dynamic tree) (hb : b ∈ collect dynamic tree) : Comparable dynamic tree := by
  have hother {s : Text} (hs : s ∈ collect dynamic tree) :
      ∃ q ∈ references dynamic tree, q.specifier = s := by
    simpa [collect] using hs
  intro v hv s hrefers
  have hr : ⟨v.node.start, s⟩ ∈ references dynamic tree := mem_references_iff.mpr ⟨v, hv, rfl, hrefers⟩
  obtain ⟨q, hq, hqs⟩ : ∃ q ∈ references dynamic tree, s ≠ q.specifier := by
    by_cases hsa : s = a
    · obtain ⟨q, hq, hqb⟩ := hother hb
      exact ⟨q, hq, hsa ▸ hqb ▸ hne⟩
    · obtain ⟨q, hq, hqa⟩ := hother ha
      exact ⟨q, hq, hqa ▸ hsa⟩
  rcases h _ hr q hq hqs with hlt | hlt
  · exact (Number.lt_number hlt).1
  · exact (Number.lt_number hlt).2

/-- Each module is listed ahead of those that it is referred to ahead of. -/
theorem collect_ahead (h : Apart (references dynamic tree)) :
    (collect dynamic tree).Pairwise (Ahead (references dynamic tree)) := by
  refine pairwise_iff_forall_sublist.mpr fun {a b} hab => ?_
  have hne : a ≠ b := by simpa using (collect_nodup dynamic tree).sublist hab
  have hcomparable := h.comparable hne (hab.subset (by simp)) (hab.subset (by simp))
  obtain ⟨x, y, ⟨⟨v, hv, hstart, hrefers⟩, -⟩, ⟨-, hleast⟩, hxy⟩ := (pair_sublist_collect_iff hcomparable).mp hab
  have hr : ⟨v.node.start, a⟩ ∈ references dynamic tree :=
    mem_references_iff.mpr ⟨v, mem_of_getElem? hv, rfl, hrefers⟩
  refine ⟨_, hr, rfl, fun q hq hqb => ?_⟩
  obtain ⟨w, hw, hstart', hrefers'⟩ := mem_references_iff.mp hq
  obtain ⟨i, hi⟩ := mem_iff_getElem?.mp hw
  -- The reference to `b` has a place that is not below its least one.
  have hplace : toLex (w.node.start.value, i) ∈ places dynamic tree b := ⟨w, hi, rfl, hqb ▸ hrefers'⟩
  have hbelow := hxy.trans_le (hleast hplace)
  have hle : v.node.start.value ≤ w.node.start.value := by
    rw [hstart]
    exact Prod.Lex.monotone_fst _ _ hbelow.le
  refine (h _ hr q hq (hqb ▸ hne)).resolve_right fun hlt => ?_
  obtain ⟨hq, hv⟩ := Number.lt_number hlt
  exact absurd ((Number.lt_iff hq hv).mp hlt) (hstart' ▸ hle.not_gt)

end Listing

/-- **The order of fields does not show in a list of dependencies**, if nodes that refer to
different modules start differently. -/
theorem collect_reordered (dynamic : Bool) {t t' : Value} (h : Reordered t t')
    (ht : t.Everywhere DistinctKeys)
    (hapart : ∀ v ∈ visits t, ∀ w ∈ visits t, ∀ a b, Refers dynamic v.node a → Refers dynamic w.node b →
      a ≠ b → v.node.start.Differ w.node.start) :
    collect dynamic t = collect dynamic t' := by
  have hperm := references_reordered dynamic h ht
  have hfound : Apart (references dynamic t) := by
    intro r hr q hq hne
    obtain ⟨v, hv, hstart, hrefers⟩ := mem_references_iff.mp hr
    obtain ⟨w, hw, hstart', hrefers'⟩ := mem_references_iff.mp hq
    exact hstart ▸ hstart' ▸ hapart v hv w hw _ _ hrefers hrefers' hne
  have hfound' : Apart (references dynamic t') := fun r hr q hq =>
    hfound r (hperm.mem_iff.mpr hr) q (hperm.mem_iff.mpr hq)
  have hahead {a b : Text} (hab : Ahead (references dynamic t') a b) : Ahead (references dynamic t) a b := by
    obtain ⟨r, hr, hra, hall⟩ := hab
    exact ⟨r, hperm.mem_iff.mpr hr, hra, fun q hq => hall q (hperm.mem_iff.mp hq)⟩
  have hmembers : collect dynamic t ~ collect dynamic t' := by
    refine (perm_ext_iff_of_nodup (collect_nodup dynamic t) (collect_nodup dynamic t')).mpr fun s => ?_
    simp only [collect, mem_eraseDups, mem_map, mem_mergeSort, hperm.mem_iff]
  exact hmembers.eq_of_pairwise (fun a b _ _ hab hba => absurd hba hab.asymm) (collect_ahead hfound)
    ((collect_ahead hfound').imp hahead)

theorem keyed_string (t : Text) : (Value.string t).Everywhere DistinctKeys :=
  Value.everywhere_leaf nofun nofun trivial

theorem keyed_number (n : Number) : (Value.number n).Everywhere DistinctKeys :=
  Value.everywhere_leaf nofun nofun trivial

/-- No key comes twice in a node that imports a literal. -/
theorem keyed_import (start : Number) (s : Text) :
    (Value.object [("type", .string "ImportDeclaration"), ("start", .number start), ("end", .number (.int 9)),
      ("source", .object [("type", .string "Literal"), ("start", .number start), ("end", .number (.int 9)),
        ("value", .string s)])]).Everywhere DistinctKeys := by
  have hliteral : (Value.object [("type", .string "Literal"), ("start", .number start),
      ("end", .number (.int 9)), ("value", .string s)]).Everywhere DistinctKeys :=
    Value.everywhere_object_iff.mpr
      ⟨by simp only [DistinctKeys, map_cons, map_nil]; decide, by simp [keyed_string, keyed_number]⟩
  exact Value.everywhere_object_iff.mpr
    ⟨by simp only [DistinctKeys, map_cons, map_nil]; decide, by simp [keyed_string, keyed_number, hliteral]⟩

/-- Two imports in fields that change places are visited in another order. -/
theorem swappedImports_reordered :
    let node (kind : Text) (start : Int) (more : Value.Fields) : Value :=
      .object (("type", .string kind) :: ("start", .number (.int start)) :: ("end", .number (.int 9)) :: more)
    let importing (start : Int) (s : Text) : Value :=
      node "ImportDeclaration" start [("source", node "Literal" start [("value", .string s)])]
    let tree := node "Program" 0 [("late", importing 5 "b"), ("early", importing 2 "a")]
    let tree' := node "Program" 0 [("early", importing 2 "a"), ("late", importing 5 "b")]
    (references false tree).map Reference.specifier ≠ (references false tree').map Reference.specifier ∧
      collect false tree = collect false tree' := by
  intro node importing tree tree'
  have hkeys : DistinctKeys tree := by unfold DistinctKeys; decide
  have htree : tree.Everywhere DistinctKeys :=
    Value.everywhere_object_iff.mpr
      ⟨hkeys, by simp [keyed_string, keyed_number, importing, node, keyed_import]⟩
  have hswapped : Reordered tree tree' :=
    .of_perm (((Perm.swap _ _ []).cons _).cons _ |>.cons _) hkeys
  have hstarts : ∀ v ∈ visits tree, ∀ w ∈ visits tree, (specifierFor? false v.node).isSome →
      (specifierFor? false w.node).isSome → specifierFor? false v.node ≠ specifierFor? false w.node →
      v.node.start.lt w.node.start ∨ w.node.start.lt v.node.start := by decide +kernel
  refine ⟨by decide +kernel, collect_reordered false hswapped htree fun v hv w hw a b ha hb hne => ?_⟩
  have ha := specifierFor_eq_some_iff.mpr ha
  have hb := specifierFor_eq_some_iff.mpr hb
  exact hstarts v hv w hw (by simp [ha]) (by simp [hb]) (by simpa [ha, hb] using hne)

/-- Two starts that are different and yet tie: one is not a number, or both are zero. The modules are
then listed in the order of the fields. -/
theorem tiedStarts_reordered :
    let node (kind : Text) (start : Number) (more : Value.Fields) : Value :=
      .object (("type", .string kind) :: ("start", .number start) :: ("end", .number (.int 9)) :: more)
    let importing (start : Number) (s : Text) : Value :=
      node "ImportDeclaration" start [("source", node "Literal" start [("value", .string s)])]
    let tree (x y : Number) := node "Program" (.int 0) [("late", importing y "b"), ("early", importing x "a")]
    let tree' (x y : Number) := node "Program" (.int 0) [("early", importing x "a"), ("late", importing y "b")]
    let Shows (x y : Number) : Prop := Reordered (tree x y) (tree' x y) ∧ (tree x y).Everywhere DistinctKeys ∧
      (∀ v ∈ visits (tree x y), ∀ w ∈ visits (tree x y), ∀ a b, Refers false v.node a →
        Refers false w.node b → a ≠ b → v.node.start ≠ w.node.start) ∧
      collect false (tree x y) = [Text.ofString "b", Text.ofString "a"] ∧
      collect false (tree' x y) = [Text.ofString "a", Text.ofString "b"]
    Shows .notANumber (.int 5) ∧ Shows .negativeZero (.int 0) := by
  intro node importing tree tree' Shows
  suffices htied : ∀ x y : Number, x ≠ y → x.lt y = false → y.lt x = false → Shows x y from
    ⟨htied _ _ (by decide) rfl rfl, htied _ _ (by decide) rfl rfl⟩
  intro x y hne hxy hyx
  have hkeys : DistinctKeys (tree x y) := by
    show [Text.ofString "type", Text.ofString "start", Text.ofString "end", Text.ofString "late",
      Text.ofString "early"].Nodup
    decide
  have hreferences : references false (tree x y) = [⟨y, "b"⟩, ⟨x, "a"⟩] := rfl
  have hreferences' : references false (tree' x y) = [⟨x, "a"⟩, ⟨y, "b"⟩] := rfl
  have hsorted (r q : Reference) (h : q.start.lt r.start = false) : [r, q].mergeSort notAfter = [r, q] := by
    simp [mergeSort, MergeSort.Internal.splitInTwo, notAfter, h]
  refine ⟨.of_perm (((Perm.swap _ _ []).cons _).cons _ |>.cons _) hkeys,
    Value.everywhere_object_iff.mpr
      ⟨hkeys, by simp [keyed_string, keyed_number, importing, node, keyed_import]⟩, ?_, ?_, ?_⟩
  · intro v hv w hw a b ha hb hab hstart
    have hr : ⟨v.node.start, a⟩ ∈ references false (tree x y) := mem_references_iff.mpr ⟨v, hv, rfl, ha⟩
    have hq : ⟨w.node.start, b⟩ ∈ references false (tree x y) := mem_references_iff.mpr ⟨w, hw, rfl, hb⟩
    rw [hreferences] at hr hq
    simp only [mem_cons, Reference.mk.injEq, not_mem_nil, or_false] at hr hq
    rcases hr with ⟨hv, rfl⟩ | ⟨hv, rfl⟩ <;> rcases hq with ⟨hw, rfl⟩ | ⟨hw, rfl⟩
    · exact hab rfl
    · exact hne (hw.symm.trans (hstart.symm.trans hv))
    · exact hne (hv.symm.trans (hstart.trans hw))
    · exact hab rfl
  · rw [collect, hreferences, hsorted _ _ hxy]
    rfl
  · rw [collect, hreferences', hsorted _ _ hyx]
    rfl

end EcmaModule.Dependency
