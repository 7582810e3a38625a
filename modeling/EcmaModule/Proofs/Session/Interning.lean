import EcmaModule.Proofs.Session.Scope

/-! The ids of names in a session.

All parses on a context share its table of names. Each step of a program that runs on the
machine interns a list of names (`next_interned`): those of its tree if it is a parse, the one
that is asked for if it interns, else none. Interning only appends, so along a run no name
comes twice, and ids stay (`Reaches.extends`). Whether a parse comes to a module or a failure
makes no difference, for only the grammar's ending decides (`run_interned`). -/
namespace EcmaModule.Session

open Engine Relation

namespace Machine
variable {ε α : Type} {m m' : Machine ε α}

/-- The names that have ids; the id of a name is where it stands. -/
def names (m : Machine ε α) : List Text := m.context.atoms.names

/-- How the grammar ends in the parse that comes next, if a parse comes next. -/
def ending? (m : Machine ε α) : Option Grammar.Ending :=
  match m.program with
  | .simple own s _ => s.ending? own
  | .parseThen r _ _ => some r.run.ending
  | _ => none

/-- The names that the next step interns, in order. -/
def interned (m : Machine ε α) : List Text :=
  match m.program with
  | .simple own s _ => s.interned own m.context.atoms.active
  | .parseThen r _ _ => namesOf r.run.ending
  | _ => []

/-- **A step interns its names**, and does nothing else to those that have ids. -/
theorem next_interned (hstep : m.next? = some m') :
    m'.names = (m.interned.foldl Atoms.insert m.context.atoms).names := by
  obtain ⟨waiting, program, c⟩ := m
  cases program with
  | done result =>
    cases waiting with
    | nil => cases hstep
    | cons next rest =>
      cases hstep
      rfl
  | simple own s next =>
    cases hstep
    exact congrArg Atoms.names (simple_atoms own c s)
  | parseThen r continuation next =>
    cases hstep
    have hparse := register_atoms r.grammar r.config r.name r.source {c with atoms := c.atoms.opened}
    rw [Atoms.foldl_insert_opened] at hparse
    have hnames := congrArg Atoms.names hparse
    exact hnames
  | enter body next =>
    cases hstep
    rfl

/-! ### Runs -/

theorem step_nodup (hstep : m.next? = some m') (h : m.names.Nodup) : m'.names.Nodup := by
  rw [next_interned hstep]
  exact Atoms.foldl_insert_nodup m.interned h

theorem Reaches.nodup (hreaches : Reaches m m') (h : m.names.Nodup) : m'.names.Nodup := by
  induction hreaches with
  | refl => exact h
  | tail _ hstep ih => exact step_nodup hstep ih

/-- Names only come behind those that have ids. -/
theorem Reaches.extends (hreaches : Reaches m m') : m.names <+: m'.names := by
  induction hreaches with
  | refl => exact List.prefix_refl _
  | @tail m₁ m₂ _ hstep ih =>
    have hgrows := Atoms.foldl_insert_extends m₁.interned m₁.context.atoms
    rw [← next_interned hstep] at hgrows
    exact ih.trans hgrows

/-- What has an id keeps it. -/
theorem Reaches.keeps (hreaches : Reaches m m') {name : Text} {i : Nat} (h : m.names[i]? = some name) :
    m'.names[i]? = some name := by
  obtain ⟨later, hlater⟩ := hreaches.extends
  rw [← hlater, List.getElem?_append_left (List.getElem?_eq_some_iff.mp h).1, h]

/-! ### Parses and interning -/

/-- Where the next step is no call of intern, only a parse interns, and it interns the names of its
grammar's ending. -/
theorem interned_eq (hintern : ∀ own name next, m.program ≠ .simple own (.intern name) next) :
    m.interned = m.ending?.elim [] namesOf := by
  obtain ⟨waiting, program, c⟩ := m
  cases program with
  | done result | enter body next | parseThen r continuation next => rfl
  | simple own s next =>
    cases s with
    | intern name => exact absurd rfl (hintern own name next)
    | _ => rfl

theorem not_intern_of_ending {ending : Grammar.Ending} (h : m.ending? = some ending) (own : Grammar)
    (name : Text) (next : Reply → Program ε α) : m.program ≠ .simple own (.intern name) next := by
  intro hprogram
  rw [ending?, hprogram] at h
  cases h

theorem simple_context {own : Grammar} {s : Step} {next : Reply → Program ε α}
    (hprogram : m.program = .simple own s next) (hstep : m.next? = some m') :
    m'.context = (simple own m.context s).2 := by
  obtain ⟨waiting, _, c⟩ := m
  obtain rfl : _ = Program.simple own s next := hprogram
  cases hstep
  rfl

/-- What a step does to the names that have ids. -/
structure Interns (m m' : Machine ε α) : Prop where
  /-- A parse whose grammar returns a tree appends the names of the identifiers that the walk
  visits, as far as they are new, in the order of their first visits. -/
  tree : ∀ module, m.ending? = some (.tree module) → ∃ fresh, m'.names = m.names ++ fresh ∧
    (∀ name, name ∈ fresh ↔ name ∉ m.names ∧ ∃ v ∈ Tree.visits module, Identifies v.node name) ∧
    fresh.Pairwise (MetBefore module)
  /-- A parse whose grammar throws appends nothing. -/
  thrown : ∀ what, m.ending? = some (.thrown what) → m'.names = m.names
  /-- Within an open scope, interning appends a new name and answers the id of the name. -/
  within : m.context.atoms.active = true → ∀ own name next,
    m.program = .simple own (.intern name) next →
    (m'.names = if name ∈ m.names then m.names else m.names ++ [name]) ∧
      ∃ n : Nat, m'.names[n]? = some name ∧
        simple own m.context (.intern name) = (.ok (.number n), m'.context)
  /-- Outside a scope it fails and leaves all as it is. -/
  outside : m.context.atoms.active = false → ∀ own name next,
    m.program = .simple own (.intern name) next →
    m'.context = m.context ∧
      simple own m.context (.intern name) = (.error (.problem (.outsideScope name)), m.context)
  /-- Nothing else makes a difference. -/
  other : m.ending? = none → (∀ own name next, m.program ≠ .simple own (.intern name) next) →
    m'.names = m.names

theorem step_interns (hstep : m.next? = some m') (hnodup : m.names.Nodup) : Interns m m' where
  tree module h := by
    rw [next_interned hstep, interned_eq (not_intern_of_ending h), h]
    exact fresh_names module m.context.atoms
  thrown what h := by
    rw [next_interned hstep, interned_eq (not_intern_of_ending h), h]
    rfl
  within h own name next hprogram := by
    obtain ⟨n, hid, hanswer⟩ := intern_answers own h name
    have hcontext := simple_context hprogram hstep
    rw [hanswer] at hcontext
    have hnames : m'.names = (m.context.atoms.insert name).names := by rw [names, hcontext]
    have hinserted : (m.context.atoms.insert name).names.Nodup := Atoms.foldl_insert_nodup [name] hnodup
    refine ⟨hnames.trans (Atoms.insert_names _ _), n, ?_, by rw [hanswer, hcontext]⟩
    rw [hnames]
    exact (Atoms.lookup_eq_some_iff hinserted).mp hid
  outside h own name next hprogram := by
    have hfails := intern_outside own h name
    have hcontext := simple_context hprogram hstep
    rw [hfails] at hcontext
    exact ⟨hcontext, hfails⟩
  other h hintern := by
    rw [next_interned hstep, interned_eq hintern, h]
    rfl

end Machine

/-- **Ids are dense and stay, and they are given in the order of first visits.** Wherever a program is
on its way, the names that have ids form a list in which none comes twice and the id of
each is where it stands; later names come behind, so that ids stay. A parse whose grammar
returns a tree appends the names of the identifiers visited that have none, in the order
of their first visits, whatever its outcome; a parse whose grammar throws appends none. -/
theorem run_interned {ε α : Type} (flags : HandlerFlags) (program : Program ε α) :
    let start : Machine ε α := ⟨[], program, Context.fresh flags⟩
    let last := program.run (Context.fresh flags)
    Machine.Reaches start ⟨[], .done last.1, last.2⟩ ∧
      ∀ m, Machine.Reaches start m →
        m.names.Nodup ∧
        (∀ (name : Text) (i : Nat), m.context.atoms.lookup name = some i ↔ m.names[i]? = some name) ∧
        (∀ m', Machine.Reaches m m' → m.names <+: m'.names ∧
          ∀ (name : Text) (i : Nat), m.context.atoms.lookup name = some i →
            m'.context.atoms.lookup name = some i) ∧
        ∀ m', m.next? = some m' → m.Interns m' := by
  intro start last
  refine ⟨Machine.reaches_done program [] _, fun m hreaches => ?_⟩
  have hstart : start.names.Nodup := List.nodup_nil
  have hnodup := hreaches.nodup hstart
  refine ⟨hnodup, fun _ _ => Atoms.lookup_eq_some_iff hnodup, fun m' hlater => ?_, fun m' hstep =>
    Machine.step_interns hstep hnodup⟩
  refine ⟨hlater.extends, fun name i hid => ?_⟩
  rw [Atoms.lookup_eq_some_iff (hlater.nodup hnodup)]
  exact hlater.keeps ((Atoms.lookup_eq_some_iff hnodup).mp hid)

/-- A parse that fails gives ids to the names of its tree, but not to those that have one. -/
example :
    let identifier (name : Text) : Value :=
      .object [("type", .string "Identifier"), ("start", .number (.int 0)), ("end", .number (.int 1)),
        ("name", .string name)]
    let own : Grammar := fun _ source =>
      ⟨[.complaint 0 "odd"], .tree (.array [identifier "b", identifier source, identifier "b"])⟩
    let p : Program Text Unit :=
      .simple own (.parse "a.js" "a" {} .library) fun _ =>
        .simple own (.parse "c.js" "c" {} .library) fun _ => .done (.ok ())
    (p.run {}).2.atoms.names = [Text.ofString "b", Text.ofString "a", Text.ofString "c"] := by
  decide +kernel

end EcmaModule.Session
