import EcmaModule.Proofs.Dependency.Listing

/-! What it adds to a list of dependencies that dynamic imports count.

Only an `import()` refers to a module by the flag (`refers_static_iff`). So counting dynamic
imports adds the modules that nothing else refers to. It may also move a module forward, where
an `import()` stands before all else that refers to it; but modules that no `import()` refers
to keep their order among each other (`collect_dynamic`). -/
namespace EcmaModule.Dependency

open EcmaModule.Tree List

theorem refers_static_iff {n : Node} {s : Text} :
    Refers false n s ↔ Refers true n s ∧ n.kind ≠ "ImportExpression" := by
  constructor
  · intro h
    cases h with
    | declaration hkind h =>
      refine ⟨.declaration hkind h, ?_⟩
      rcases hkind with hkind | hkind | hkind <;> rw [hkind] <;> decide
    | importing hdynamic => cases hdynamic
    | equals hkind href hexternal h => exact ⟨.equals hkind href hexternal h, by rw [hkind]; decide⟩
    | require hkind hcallee hidentifier hname harguments h =>
      exact ⟨.require hkind hcallee hidentifier hname harguments h, by rw [hkind]; decide⟩
  · rintro ⟨h, hother⟩
    cases h with
    | declaration hkind h => exact .declaration hkind h
    | importing _ hkind => exact absurd hkind hother
    | equals hkind href hexternal h => exact .equals hkind href hexternal h
    | require hkind hcallee hidentifier hname harguments h =>
      exact .require hkind hcallee hidentifier hname harguments h

section Flag
variable {tree : Value}

theorem mem_collect_dynamic {s : Text} (h : s ∈ collect false tree) : s ∈ collect true tree := by
  obtain ⟨v, hv, hrefers⟩ := mem_collect_iff.mp h
  exact mem_collect_iff.mpr ⟨v, hv, (refers_static_iff.mp hrefers).1⟩

/-- A module is left out when dynamic imports do not count if nothing but `import()`s refer to it. -/
theorem not_mem_collect_static_iff {s : Text} :
    s ∉ collect false tree ↔
      ∀ v ∈ visits tree, Refers true v.node s → v.node.kind = "ImportExpression" := by
  simp only [mem_collect_iff, refers_static_iff, not_exists, not_and, not_not]

/-- The places that refer to a module are the same if no `import()` does. -/
theorem places_static {s : Text}
    (h : ∀ v ∈ visits tree, v.node.kind = "ImportExpression" → ¬ Refers true v.node s) :
    places false tree s = places true tree s := by
  ext p
  refine exists_congr fun v => and_congr_right fun hv => and_congr_right fun _ => ?_
  rw [refers_static_iff, and_iff_left_iff_imp]
  exact fun hrefers hkind => h v (mem_of_getElem? hv) hkind hrefers

theorem Comparable.static (h : Comparable true tree) : Comparable false tree :=
  fun v hv s hrefers => h v hv s (refers_static_iff.mp hrefers).1

end Flag

/-- **Counting dynamic imports only adds their targets.** All that is listed without them is listed
with them, and a module is added if nodes refer to it and all that do are `import()`s. Where
starts can be compared, two modules that no `import()` refers to stand in the same order with
and without them. -/
theorem collect_dynamic (tree : Value) :
    (∀ s ∈ collect false tree, s ∈ collect true tree) ∧
      (∀ s, s ∈ collect true tree ∧ s ∉ collect false tree ↔
        (∃ v ∈ visits tree, Refers true v.node s) ∧
          ∀ v ∈ visits tree, Refers true v.node s → v.node.kind = "ImportExpression") ∧
      (Comparable true tree → ∀ a b,
        (∀ v ∈ visits tree, v.node.kind = "ImportExpression" →
          ¬ Refers true v.node a ∧ ¬ Refers true v.node b) →
        ([a, b] <+ collect false tree ↔ [a, b] <+ collect true tree)) := by
  refine ⟨fun s => mem_collect_dynamic, fun s => and_congr mem_collect_iff not_mem_collect_static_iff,
    fun hcomparable a b hnone => ?_⟩
  rw [pair_sublist_collect_iff hcomparable.static, pair_sublist_collect_iff hcomparable,
    places_static fun v hv hkind => (hnone v hv hkind).1,
    places_static fun v hv hkind => (hnone v hv hkind).2]

/-- A module imported dynamically at the front changes nothing between two that are not, and one
that is imported dynamically only is added. -/
theorem movedForward_dynamic :
    let node (kind : Text) (start : Int) (s : Text) : Value :=
      .object [("type", .string kind), ("start", .number (.int start)), ("end", .number (.int 9)),
        ("source", .object [("type", .string "Literal"), ("start", .number (.int start)),
          ("end", .number (.int 9)), ("value", .string s)])]
    let tree := Value.array [node "ImportDeclaration" 2 "b", node "ImportDeclaration" 1 "a",
      node "ImportDeclaration" 3 "c", node "ImportExpression" 4 "d", node "ImportExpression" 0 "b"]
    Comparable true tree ∧
      (∀ v ∈ visits tree, v.node.kind = "ImportExpression" →
        ¬ Refers true v.node "a" ∧ ¬ Refers true v.node "c") ∧
      [Text.ofString "a", Text.ofString "c"] <+ collect true tree ∧
      Text.ofString "d" ∈ collect true tree ∧ Text.ofString "d" ∉ collect false tree := by
  intro node tree
  have hnumbers : ∀ v ∈ visits tree, v.node.start ≠ .notANumber := by decide +kernel
  have hcomparable : Comparable true tree := fun v hv _ _ => hnumbers v hv
  have hother : ∀ v ∈ visits tree, v.node.kind = "ImportExpression" →
      ¬ Refers true v.node "a" ∧ ¬ Refers true v.node "c" := by decide +kernel
  have hsorted : (references false tree).mergeSort notAfter =
      [⟨.int 1, "a"⟩, ⟨.int 2, "b"⟩, ⟨.int 3, "c"⟩] := by
    rw [show references false tree = [⟨.int 2, "b"⟩, ⟨.int 1, "a"⟩, ⟨.int 3, "c"⟩] from rfl]
    simp +decide [mergeSort, MergeSort.Internal.splitInTwo]
  have hlisted : [Text.ofString "a", Text.ofString "c"] <+ collect false tree := by
    rw [collect, hsorted]
    decide +kernel
  obtain ⟨-, hadded, horder⟩ := collect_dynamic tree
  exact ⟨hcomparable, hother, (horder hcomparable "a" "c" hother).mp hlisted,
    (hadded "d").mpr (by decide +kernel)⟩

/-- An `import()` whose start is not a number ties with all others, and so changes the order of two
modules that no `import()` refers to. And one of a literal that is no node adds nothing. -/
theorem unorderedStart_dynamic :
    let node (kind : Text) (start : Number) (s : Text) : Value :=
      .object [("type", .string kind), ("start", .number start), ("end", .number (.int 9)),
        ("source", .object [("type", .string "Literal"), ("start", .number start),
          ("end", .number (.int 9)), ("value", .string s)])]
    let tree := Value.array [node "ImportDeclaration" (.int 5) "b", node "ImportDeclaration" (.int 7) "c",
      node "ImportExpression" .notANumber "x", node "ImportDeclaration" (.int 2) "a"]
    let bare := Value.object [("type", .string "ImportExpression"), ("start", .number (.int 0)),
      ("end", .number (.int 9)), ("source", .object [("type", .string "Literal"), ("value", .string "b")])]
    (∀ v ∈ visits tree, v.node.kind = "ImportExpression" →
        ¬ Refers true v.node "a" ∧ ¬ Refers true v.node "b") ∧
      [Text.ofString "a", Text.ofString "b"] <+ collect false tree ∧
      ¬ [Text.ofString "a", Text.ofString "b"] <+ collect true tree ∧
      (∃ v ∈ visits bare, v.node.kind = "ImportExpression" ∧
        (v.node.get "source").get "type" = .string "Literal" ∧
        (v.node.get "source").get "value" = .string "b") ∧
      collect true bare = [] := by
  intro node tree bare
  have hstatic : (references false tree).mergeSort notAfter =
      [⟨.int 2, "a"⟩, ⟨.int 5, "b"⟩, ⟨.int 7, "c"⟩] := by
    rw [show references false tree = [⟨.int 5, "b"⟩, ⟨.int 7, "c"⟩, ⟨.int 2, "a"⟩] from rfl]
    simp +decide [mergeSort, MergeSort.Internal.splitInTwo]
  have hdynamic : (references true tree).mergeSort notAfter =
      [⟨.int 5, "b"⟩, ⟨.int 7, "c"⟩, ⟨.notANumber, "x"⟩, ⟨.int 2, "a"⟩] := by
    rw [show references true tree =
      [⟨.int 5, "b"⟩, ⟨.int 7, "c"⟩, ⟨.notANumber, "x"⟩, ⟨.int 2, "a"⟩] from rfl]
    simp +decide [mergeSort, MergeSort.Internal.splitInTwo]
  have hbare : references true bare = [] := rfl
  refine ⟨by decide +kernel, ?_, ?_, ⟨_, mem_cons_self, rfl, rfl, rfl⟩, by simp [collect, hbare]⟩
  · rw [collect, hstatic]
    decide +kernel
  · rw [collect, hdynamic]
    decide +kernel

end EcmaModule.Dependency
