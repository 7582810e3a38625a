import EcmaModule.Dependency
import Mathlib.Tactic.SplitIfs

/-! What a node refers to.

A string literal names its value, and a template without expressions the cooked text of its first
part. A node refers to a module by what it holds in a certain place, which depends on its kind;
that is what is read off it (`specifierFor_eq_some_iff`). -/
namespace EcmaModule.Dependency

open EcmaModule.Tree

/-- A value names a module. -/
inductive Names : Value → Text → Prop where
  | literal {v : Value} {n : Node} {s : Text} (hnode : node? v = some n) (hkind : n.kind = "Literal")
    (hvalue : n.get "value" = .string s) : Names v s
  | template {v quasi : Value} {n q : Node} {rest : List Value} {s : Text} (hnode : node? v = some n)
    (hkind : n.kind = "TemplateLiteral") (hexpressions : n.get "expressions" = .array [])
    (hquasis : n.get "quasis" = .array (quasi :: rest)) (hquasi : node? quasi = some q)
    (hcooked : (q.get "value").get "cooked" = .string s) : Names v s

/-- A node refers to a module; an `import()` does so only where dynamic imports count. -/
inductive Refers (dynamic : Bool) : Node → Text → Prop where
  | declaration {n : Node} {s : Text}
    (hkind : n.kind = "ImportDeclaration" ∨ n.kind = "ExportNamedDeclaration" ∨
      n.kind = "ExportAllDeclaration")
    (h : Names (n.get "source") s) : Refers dynamic n s
  | importing {n : Node} {s : Text} (hdynamic : dynamic = true) (hkind : n.kind = "ImportExpression")
    (h : Names (n.get "source") s) : Refers dynamic n s
  | equals {n r : Node} {s : Text} (hkind : n.kind = "TSImportEqualsDeclaration")
    (href : node? (n.get "moduleReference") = some r) (hexternal : r.kind = "TSExternalModuleReference")
    (h : Names (r.get "expression") s) : Refers dynamic n s
  | require {n callee : Node} {first : Value} {rest : List Value} {s : Text}
    (hkind : n.kind = "CallExpression") (hcallee : node? (n.get "callee") = some callee)
    (hidentifier : callee.kind = "Identifier") (hname : callee.get "name" = .string "require")
    (harguments : n.get "arguments" = .array (first :: rest)) (h : Names first s) : Refers dynamic n s

theorem isKind_iff {n : Node} {kind : Text} : n.isKind kind = true ↔ n.kind = kind := beq_iff_eq

theorem text_eq_some_iff {v : Value} {t : Text} : v.text? = some t ↔ v = .string t := by
  cases v <;> simp [Value.text?]

theorem specifierOf_eq_some_iff {v : Value} {s : Text} : specifierOf? v = some s ↔ Names v s := by
  constructor
  · intro h
    unfold specifierOf? at h
    split at h
    · cases h
    · next n hnode =>
      split_ifs at h with hliteral htemplate
      · split at h
        · next t hvalue =>
          cases h
          exact .literal hnode (isKind_iff.mp hliteral) hvalue
        · cases h
      · split at h
        · next quasi rest hexpressions hquasis =>
          split at h
          · next q hquasi =>
            exact .template hnode (isKind_iff.mp htemplate) hexpressions hquasis hquasi (text_eq_some_iff.mp h)
          · cases h
        · cases h
  · intro h
    cases h with
    | literal hnode hkind hvalue => simp [specifierOf?, hnode, isKind_iff.mpr hkind, hvalue]
    | template hnode hkind hexpressions hquasis hquasi hcooked =>
      simp +decide [specifierOf?, hnode, Node.isKind, hkind, hexpressions, hquasis, hquasi, hcooked, Value.text?]

theorem isRequireCall_iff {n : Node} :
    isRequireCall n = true ↔ ∃ callee, node? (n.get "callee") = some callee ∧
      callee.kind = "Identifier" ∧ callee.get "name" = .string "require" := by
  unfold isRequireCall
  cases node? (n.get "callee") <;> simp [isKind_iff, text_eq_some_iff]

/-- A call without arguments names nothing. -/
theorem names_firstArgument_iff {n : Node} {s : Text} :
    Names (firstArgument n) s ↔ ∃ first rest, n.get "arguments" = .array (first :: rest) ∧ Names first s := by
  unfold firstArgument
  split
  · next first rest harguments => simp [harguments]
  · next hnone =>
    refine ⟨fun h => ?_, fun ⟨first, rest, harguments, _⟩ => absurd harguments (hnone first rest)⟩
    cases h <;> contradiction

theorem externalModule_eq_some_iff {n : Node} {s : Text} :
    externalModule? n = some s ↔ ∃ r, node? (n.get "moduleReference") = some r ∧
      r.kind = "TSExternalModuleReference" ∧ Names (r.get "expression") s := by
  unfold externalModule?
  cases node? (n.get "moduleReference") <;> simp [isKind_iff, specifierOf_eq_some_iff]

/-- **What is read off a node is what it refers to.** -/
theorem specifierFor_eq_some_iff {dynamic : Bool} {n : Node} {s : Text} :
    specifierFor? dynamic n = some s ↔ Refers dynamic n s := by
  constructor
  · intro h
    unfold specifierFor? at h
    split_ifs at h with hdeclaration himporting hdynamic hequals hcall hrequire
    · simp only [Bool.or_eq_true, isKind_iff, or_assoc] at hdeclaration
      exact .declaration hdeclaration (specifierOf_eq_some_iff.mp h)
    · exact .importing hdynamic (isKind_iff.mp himporting) (specifierOf_eq_some_iff.mp h)
    · obtain ⟨r, href, hexternal, h⟩ := externalModule_eq_some_iff.mp h
      exact .equals (isKind_iff.mp hequals) href hexternal h
    · obtain ⟨callee, hcallee, hidentifier, hname⟩ := isRequireCall_iff.mp hrequire
      obtain ⟨first, rest, harguments, h⟩ := names_firstArgument_iff.mp (specifierOf_eq_some_iff.mp h)
      exact .require (isKind_iff.mp hcall) hcallee hidentifier hname harguments h
  · intro h
    -- The kinds are told apart by evaluation.
    cases h with
    | declaration hkind h =>
      have h := specifierOf_eq_some_iff.mpr h
      rcases hkind with hkind | hkind | hkind <;> simp +decide [specifierFor?, Node.isKind, hkind, h]
    | importing hdynamic hkind h =>
      have h := specifierOf_eq_some_iff.mpr h
      simp +decide [specifierFor?, Node.isKind, hkind, hdynamic, h]
    | equals hkind href hexternal h =>
      have h := externalModule_eq_some_iff.mpr ⟨_, href, hexternal, h⟩
      simp +decide [specifierFor?, Node.isKind, hkind, h]
    | require hkind hcallee hidentifier hname harguments h =>
      have hrequire := isRequireCall_iff.mpr ⟨_, hcallee, hidentifier, hname⟩
      have h := specifierOf_eq_some_iff.mpr (names_firstArgument_iff.mpr ⟨_, _, harguments, h⟩)
      simp +decide [specifierFor?, Node.isKind, hkind, hrequire, h]

instance (dynamic : Bool) (n : Node) (s : Text) : Decidable (Refers dynamic n s) :=
  decidable_of_iff (specifierFor? dynamic n = some s) specifierFor_eq_some_iff

end EcmaModule.Dependency
