import EcmaModule.Proofs.Engine.Transcript

/-! The names that a parse interns.

A parse interns on its walk through the tree, so where the grammar throws there is nothing to
intern (`names_ofRun`). What the grammar and the walk report, and so the outcome, has no part
in it. New names go behind those that the table has, in the order in which the walk first
meets them (`fresh_names`). -/
namespace EcmaModule.Engine

/-! ### Identifiers -/

/-- A node is an identifier of a name. -/
def Identifies (n : Tree.Node) (name : Text) : Prop :=
  n.kind = "Identifier" ∧ n.get "name" = .string name

theorem identifierName_eq_some_iff {n : Tree.Node} {name : Text} :
    identifierName? n = some name ↔ Identifies n name := by
  have htext (v : Value) : v.text? = some name ↔ v = .string name := by
    cases v <;> simp [Value.text?]
  unfold identifierName? Identifies Tree.Node.isKind
  split
  · next hkind => simp [eq_of_beq hkind, htext]
  · next hkind =>
    have hkind : n.kind ≠ "Identifier" := fun h => hkind (beq_iff_eq.mpr h)
    simp [hkind]

/-- A walk meets an identifier of one name ahead of all those of another one. -/
def MetBefore (module : Value) (a b : Text) : Prop :=
  ∃ (i : Nat) (v : Tree.Visit), (Tree.visits module)[i]? = some v ∧ Identifies v.node a ∧
    ∀ (j : Nat) (w : Tree.Visit), (Tree.visits module)[j]? = some w → Identifies w.node b → i < j

/-! ### Names of a run -/

/-- The names that a grammar's ending makes a parse intern, in the order of the walk. -/
def namesOf : Grammar.Ending → List Text
  | .tree module => (Tree.visits module).filterMap fun v => identifierName? v.node
  | .thrown _ => []

def Act.name? : Act → Option Text
  | identifier name => some name
  | _ => none

theorem names_ofActs (f : SourceFile) (acts : List Act) :
    (Transcript.ofActs f acts).names = acts.filterMap Act.name? := by
  induction acts generalizing f with
  | nil => rfl
  | cons a rest ih =>
    show (Transcript.ofAct f a).names ++ (Transcript.ofActs (f.resolveAll a.asked) rest).names = _
    rw [ih, List.filterMap_cons]
    cases a <;> rfl

theorem name_ofVisit (dynamicImport : Bool) (v : Tree.Visit) :
    (Act.ofVisit? dynamicImport v).bind Act.name? = identifierName? v.node := by
  unfold Act.ofVisit?
  cases identifierName? v.node with
  | some name => rfl
  | none =>
    show Option.bind (if _ then _ else _) _ = _
    split <;> rfl

/-- **The names of a run are those of its tree**, whatever it reports. -/
theorem names_ofRun (name source : Text) (dynamicImport : Bool) (run : Grammar.Run) :
    (Transcript.ofRun name source dynamicImport run).names = namesOf run.ending := by
  have hevents : (run.events.map Act.ofEvent).filterMap Act.name? = [] := by
    refine List.filterMap_eq_nil_iff.mpr fun a ha => ?_
    obtain ⟨e, -, rfl⟩ := List.mem_map.mp ha
    cases e <;> rfl
  rw [Transcript.ofRun, names_ofActs, Act.ofRun, List.filterMap_append, hevents, List.nil_append]
  cases run.ending with
  | thrown what => rfl
  | tree module =>
    rw [Act.ofEnding, List.filterMap_filterMap]
    simp only [name_ofVisit]
    rfl

section Parse
variable (grammar : Grammar) (config : Configuration) (name source : Text) (c : Context)

theorem register_atoms :
    (register grammar config name source c).2.atoms =
      (namesOf (grammar config.dialect source).ending).foldl Atoms.insert c.atoms := by
  rw [register_reported, ← names_ofRun name source config.dynamicImport]
  rfl

theorem parseModule_atoms :
    (parseModule grammar config name source c).2.atoms =
      (namesOf (grammar config.dialect source).ending).foldl Atoms.insert c.atoms := by
  rw [parseModule_reported, ← names_ofRun name source config.dynamicImport]
  rfl

end Parse

/-- **New names are those of the tree that the table has not**, in the order in which the walk
first meets them. -/
theorem fresh_names (module : Value) (a : Atoms) :
    ∃ fresh, ((namesOf (.tree module)).foldl Atoms.insert a).names = a.names ++ fresh ∧
      (∀ name, name ∈ fresh ↔ name ∉ a.names ∧ ∃ v ∈ Tree.visits module, Identifies v.node name) ∧
      fresh.Pairwise (MetBefore module) := by
  have hordered := eraseDups_filterMap (fun v : Tree.Visit => identifierName? v.node) (Tree.visits module)
  simp only [identifierName_eq_some_iff] at hordered
  refine ⟨_, Atoms.foldl_insert_names _ a, fun name => ?_, hordered.filter _⟩
  simp [namesOf, identifierName_eq_some_iff, and_comm]

end EcmaModule.Engine
