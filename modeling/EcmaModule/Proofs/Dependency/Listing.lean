import EcmaModule.Proofs.Dependency.Reference
import EcmaModule.Proofs.Number.Order
import EcmaModule.Proofs.Ranking
import Mathlib.Data.Prod.Lex

/-! What a list of dependencies holds, and in which order.

A module is listed if a node visited refers to it, and once, however often nodes do
(`collect_listing`). Modules stand in the order of the least places that refer to them: a place
is a start and, for nodes that start alike, the index of the visit. So the list is in the order
of the source, even where the walk is not. -/
namespace EcmaModule.Dependency

open EcmaModule.Tree List

/-! ### Places -/

/-- A start, and the index of a visit; the start decides first. -/
abbrev Place := WithBot (WithTop ℚ) ×ₗ ℕ

/-- The places at which a tree refers to a module. -/
def places (dynamic : Bool) (tree : Value) (s : Text) : Set Place :=
  {p | ∃ v, (visits tree)[(ofLex p).2]? = some v ∧ v.node.start.value = (ofLex p).1 ∧
    Refers dynamic v.node s}

/-- All references start at numbers, so their starts can be compared. -/
def Comparable (dynamic : Bool) (tree : Value) : Prop :=
  ∀ v ∈ visits tree, ∀ s, Refers dynamic v.node s → v.node.start ≠ .notANumber

section Listing
variable {dynamic : Bool} {tree : Value}

/-! ### Members -/

theorem mem_references_iff {r : Reference} :
    r ∈ references dynamic tree ↔
      ∃ v ∈ visits tree, v.node.start = r.start ∧ Refers dynamic v.node r.specifier := by
  obtain ⟨start, s⟩ := r
  simp only [references, mem_filterMap, Option.map_eq_some_iff, Reference.mk.injEq,
    specifierFor_eq_some_iff]
  exact exists_congr fun v => and_congr_right fun _ =>
    ⟨fun ⟨s, h, hstart, hs⟩ => ⟨hstart, hs ▸ h⟩, fun ⟨hstart, h⟩ => ⟨s, h, hstart, rfl⟩⟩

theorem mem_collect_iff {s : Text} :
    s ∈ collect dynamic tree ↔ ∃ v ∈ visits tree, Refers dynamic v.node s := by
  simp only [collect, mem_eraseDups, mem_map, mem_mergeSort, mem_references_iff]
  constructor
  · rintro ⟨r, ⟨v, hv, -, h⟩, rfl⟩
    exact ⟨v, hv, h⟩
  · rintro ⟨v, hv, h⟩
    exact ⟨⟨v.node.start, s⟩, ⟨v, hv, rfl, h⟩, rfl⟩

/-- No module is listed twice. -/
theorem collect_nodup (dynamic : Bool) (tree : Value) : (collect dynamic tree).Nodup := nodup_eraseDups _

/-! ### Order -/

/-- The references of a tree, each with the index of its visit. -/
def indexed (dynamic : Bool) (tree : Value) : List (Reference × Nat) :=
  (visits tree).zipIdx.filterMap fun p => (specifierFor? dynamic p.1.node).map fun s =>
    (⟨p.1.node.start, s⟩, p.2)

/-- The place of a reference. -/
def placeOf (r : Reference × Nat) : Place := toLex (r.1.start.value, r.2)

/-- The references of a tree by start; those that start alike are left in the order of their visits. -/
def byStart (dynamic : Bool) (tree : Value) : List (Reference × Nat) :=
  (indexed dynamic tree).mergeSort fun a b => decide (a.1.start.value ≤ b.1.start.value)

theorem indexed_references : (indexed dynamic tree).map Prod.fst = references dynamic tree := by
  have hvisits := filterMap_map (f := Prod.fst) (g := fun v : Visit =>
    (specifierFor? dynamic v.node).map fun s => (⟨v.node.start, s⟩ : Reference)) (l := (visits tree).zipIdx)
  rw [zipIdx_map_fst] at hvisits
  rw [references, hvisits, indexed, map_filterMap]
  simp only [Function.comp_def, Option.map_map]

theorem mem_indexed_iff {r : Reference} {i : Nat} :
    (r, i) ∈ indexed dynamic tree ↔
      ∃ v, (visits tree)[i]? = some v ∧ v.node.start = r.start ∧ Refers dynamic v.node r.specifier := by
  obtain ⟨start, s⟩ := r
  simp only [indexed, mem_filterMap, Option.map_eq_some_iff, Prod.mk.injEq, Reference.mk.injEq,
    specifierFor_eq_some_iff, Prod.exists, mk_mem_zipIdx_iff_getElem?]
  constructor
  · rintro ⟨v, _, hv, _, h, ⟨hstart, rfl⟩, rfl⟩
    exact ⟨v, hv, hstart, h⟩
  · rintro ⟨v, hv, hstart, h⟩
    exact ⟨v, i, hv, s, h, ⟨hstart, rfl⟩, rfl⟩

theorem byStart_references (h : Comparable dynamic tree) :
    (byStart dynamic tree).map Prod.fst = (references dynamic tree).mergeSort notAfter := by
  have hnumber : ∀ r ∈ indexed dynamic tree, r.1.start ≠ .notANumber := by
    rintro ⟨r, i⟩ hr
    obtain ⟨v, hv, hstart, hrefers⟩ := mem_indexed_iff.mp hr
    exact hstart ▸ h v (mem_of_getElem? hv) _ hrefers
  rw [← indexed_references]
  refine map_mergeSort fun a ha b hb => ?_
  rw [Bool.eq_iff_iff, decide_eq_true_iff, notAfter, Bool.not_eq_true', ← Bool.not_eq_true,
    Number.lt_iff (hnumber b hb) (hnumber a ha), not_lt]

theorem indexed_ascending : (indexed dynamic tree).Pairwise fun a b => a.2 < b.2 := by
  refine pairwise_filterMap.mpr ((zipIdx_ascending _).imp fun hlt a ha b hb => ?_)
  obtain ⟨_, -, rfl⟩ := Option.map_eq_some_iff.mp ha
  obtain ⟨_, -, rfl⟩ := Option.map_eq_some_iff.mp hb
  exact hlt

theorem byStart_ascending :
    (byStart dynamic tree).Pairwise fun a b => placeOf a < placeOf b := by
  refine (mergeSort_stable ?_ ?_ indexed_ascending).imp fun {a b} ⟨hle, htie⟩ => ?_
  · intro a b c hab hbc
    exact decide_eq_true ((of_decide_eq_true hab).trans (of_decide_eq_true hbc))
  · intro a b
    simpa using le_total a.1.start.value b.1.start.value
  · rw [placeOf, placeOf, Prod.Lex.toLex_lt_toLex]
    rcases (of_decide_eq_true hle).lt_or_eq with hlt | heq
    · exact .inl hlt
    · exact .inr ⟨heq, htie (decide_eq_true heq.ge)⟩

/-- The modules of a tree with the places that refer to them, in the order of the places. -/
def ranked (dynamic : Bool) (tree : Value) : List (Place × Text) :=
  (byStart dynamic tree).map fun r => (placeOf r, r.1.specifier)

theorem collect_eq (h : Comparable dynamic tree) :
    collect dynamic tree = ((ranked dynamic tree).map Prod.snd).eraseDups := by
  rw [collect, ← byStart_references h, ranked, map_map, map_map]
  rfl

theorem mem_ranked_iff {p : Place} {s : Text} : (p, s) ∈ ranked dynamic tree ↔ p ∈ places dynamic tree s := by
  simp only [ranked, byStart, mem_map, mem_mergeSort, Prod.mk.injEq, Prod.exists, mem_indexed_iff]
  constructor
  · rintro ⟨r, i, ⟨v, hv, hstart, h⟩, rfl, rfl⟩
    exact ⟨v, hv, congrArg Number.value hstart, h⟩
  · rintro ⟨v, hv, hstart, h⟩
    exact ⟨⟨v.node.start, s⟩, (ofLex p).2, ⟨v, hv, rfl, h⟩, by rw [placeOf, hstart]; rfl, rfl⟩

/-- One module stands before another one if its least place is the smaller. -/
theorem pair_sublist_collect_iff (h : Comparable dynamic tree) {a b : Text} :
    [a, b] <+ collect dynamic tree ↔
      ∃ x y, IsLeast (places dynamic tree a) x ∧ IsLeast (places dynamic tree b) y ∧ x < y := by
  have hascending : (ranked dynamic tree).Pairwise fun p q => p.1 < q.1 := pairwise_map.mpr byStart_ascending
  rw [collect_eq h, pair_sublist_eraseDups_iff hascending]
  simp only [mem_ranked_iff]
  rfl

end Listing

/-- **Dependencies are complete, listed once, and in the order of the source.** A module is
listed if and only if a node visited refers to it. Where starts can be compared, it stands
before another one if the least start of a node that refers to it, with the index of the
visit, is the smaller in lexicographic order. -/
theorem collect_listing (dynamic : Bool) (tree : Value) :
    (collect dynamic tree).Nodup ∧
      (∀ s, s ∈ collect dynamic tree ↔ ∃ v ∈ visits tree, Refers dynamic v.node s) ∧
      (Comparable dynamic tree → ∀ a b, [a, b] <+ collect dynamic tree ↔
        ∃ x y, IsLeast (places dynamic tree a) x ∧ IsLeast (places dynamic tree b) y ∧ x < y) :=
  ⟨collect_nodup dynamic tree, fun _ => mem_collect_iff, fun h _ _ => pair_sublist_collect_iff h⟩

/-- A module that is visited first comes last if it starts last, and of two that start alike the
one visited first comes first. -/
theorem tiedStarts_listing :
    let importing (start : Int) (s : Text) : Value :=
      .object [("type", .string "ImportDeclaration"), ("start", .number (.int start)), ("end", .number (.int 9)),
        ("source", .object [("type", .string "Literal"), ("start", .number (.int start)),
          ("end", .number (.int 9)), ("value", .string s)])]
    let tree := Value.array [importing 5 "b", importing 2 "a", importing 2 "c", importing 4 "b"]
    Comparable false tree ∧
      (∃ x y, IsLeast (places false tree "a") x ∧ IsLeast (places false tree "c") y ∧ x < y) ∧
      ∃ x y, IsLeast (places false tree "c") x ∧ IsLeast (places false tree "b") y ∧ x < y := by
  intro importing tree
  have hnumbers : ∀ v ∈ visits tree, v.node.start ≠ .notANumber := by decide +kernel
  have hcomparable : Comparable false tree := fun v hv _ _ => hnumbers v hv
  have hreferences : references false tree =
      [⟨.int 5, "b"⟩, ⟨.int 2, "a"⟩, ⟨.int 2, "c"⟩, ⟨.int 4, "b"⟩] := rfl
  have hsorted : (references false tree).mergeSort notAfter =
      [⟨.int 2, "a"⟩, ⟨.int 2, "c"⟩, ⟨.int 4, "b"⟩, ⟨.int 5, "b"⟩] := by
    rw [hreferences]
    simp +decide [mergeSort, MergeSort.Internal.splitInTwo]
  have hlisted : collect false tree = [Text.ofString "a", Text.ofString "c", Text.ofString "b"] := by
    rw [collect, hsorted]
    decide +kernel
  obtain ⟨-, -, horder⟩ := collect_listing false tree
  have horder := horder hcomparable
  rw [hlisted] at horder
  exact ⟨hcomparable, (horder "a" "c").mp (by decide), (horder "c" "b").mp (by decide)⟩

/-- A start that is not a number ties with all others, so an import that has one keeps a later start
behind an earlier visit. And a literal that is no node is not read, whatever value it has. -/
theorem unorderedStart_listing :
    let importing (start : Number) (s : Text) : Value :=
      .object [("type", .string "ImportDeclaration"), ("start", .number start), ("end", .number (.int 9)),
        ("source", .object [("type", .string "Literal"), ("start", .number start),
          ("end", .number (.int 9)), ("value", .string s)])]
    let tree := Value.array
      [importing (.int 5) "b", importing (.int 7) "c", importing .notANumber "x", importing (.int 2) "a"]
    let bare := Value.object [("type", .string "ImportDeclaration"), ("start", .number (.int 0)),
      ("end", .number (.int 9)), ("source", .object [("type", .string "Literal"), ("value", .string "b")])]
    collect false tree = [Text.ofString "b", Text.ofString "c", Text.ofString "x", Text.ofString "a"] ∧
      ¬ (∀ a b, [a, b] <+ collect false tree ↔
        ∃ x y, IsLeast (places false tree a) x ∧ IsLeast (places false tree b) y ∧ x < y) ∧
      (∃ v ∈ visits bare, v.node.kind = "ImportDeclaration" ∧
        (v.node.get "source").get "type" = .string "Literal" ∧
        (v.node.get "source").get "value" = .string "b") ∧
      collect false bare = [] := by
  intro importing tree bare
  have hreferences : references false tree =
      [⟨.int 5, "b"⟩, ⟨.int 7, "c"⟩, ⟨.notANumber, "x"⟩, ⟨.int 2, "a"⟩] := rfl
  have hsorted : (references false tree).mergeSort notAfter = references false tree := by
    rw [hreferences]
    simp +decide [mergeSort, MergeSort.Internal.splitInTwo]
  have hlisted : collect false tree =
      [Text.ofString "b", Text.ofString "c", Text.ofString "x", Text.ofString "a"] := by
    rw [collect, hsorted]
    decide +kernel
  have hbare : references false bare = [] := rfl
  refine ⟨hlisted, fun horder => ?_, ⟨_, mem_cons_self, rfl, rfl, rfl⟩, by simp [collect, hbare]⟩
  have hlate : ∀ v ∈ visits tree, Refers false v.node "b" → v.node.start = .int 5 := by decide +kernel
  have hearly : ∀ v ∈ visits tree, Refers false v.node "a" → v.node.start = .int 2 := by decide +kernel
  have hbefore : [Text.ofString "b", Text.ofString "a"] <+ collect false tree := by
    rw [hlisted]
    decide
  obtain ⟨x, y, ⟨⟨v, hv, hx, hb⟩, -⟩, ⟨⟨w, hw, hy, ha⟩, -⟩, hxy⟩ := (horder _ _).mp hbefore
  rw [hlate v (mem_of_getElem? hv) hb] at hx
  rw [hearly w (mem_of_getElem? hw) ha] at hy
  have hle : (Number.int 5).value ≤ (Number.int 2).value := by
    rw [hx, hy]
    exact Prod.Lex.monotone_fst _ _ hxy.le
  have hlt : (Number.int 2).value < (Number.int 5).value := (Number.lt_iff (by decide) (by decide)).mp rfl
  exact hle.not_gt hlt

end EcmaModule.Dependency
