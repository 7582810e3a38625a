import EcmaModule.Proofs.Engine.Names
import EcmaModule.Proofs.Session.Client
import Mathlib.Logic.Relation

/-! When the scope of a context is open.

A context counts how many scopes are open. A step without steps of its own leaves the count
alone, for all that it does to the table is to intern names (`simple_atoms`). To say what the
count is while other steps run, a program is run step by step, on a machine that keeps what
waits for the end of each body or continuation that is running. The machine goes where the
program goes as a whole (`reaches_done`), and at every step of it the count is the number of
those that wait (`step_balanced`): so the scope is open within a body or a continuation and
nowhere else, however they are nested, and whatever they throw (`run_scoped`). -/
namespace EcmaModule.Session

open Engine Relation

/-! ### Programs -/

/-- A program on a context, which throws `ε` or returns `α`. It goes on from what a step
answers, and from what a body or a continuation has thrown or returned; so it may throw
anywhere, catch, and throw again. -/
inductive Program (ε α : Type) where
  | done (result : Except ε α)
  /-- A step without steps of its own, with any grammar for the library's own. -/
  | simple (own : Grammar) (s : Step) (next : Reply → Program ε α)
  | parseThen (r : Request) (continuation : Outcome → Program ε α)
    (next : Except ε α → Program ε α)
  | enter (body : Program ε α) (next : Except ε α → Program ε α)

namespace Program
variable {ε α : Type}

/-- What a program throws or returns, and the context it leaves. -/
def run : Program ε α → Context → Except ε α × Context
  | done result, c => (result, c)
  | simple own s next, c =>
    let (reply, c) := Session.simple own c s
    (next reply).run c
  | parseThen r continuation next, c =>
    let (result, c) := Engine.parseThen r.grammar r.config r.name r.source
      (fun o c => (continuation o).run c) c
    (next result).run c
  | enter body next, c =>
    let (result, c) := Engine.enter (fun c => body.run c) c
    (next result).run c

mutual

/-- A step of a session as a program, with what follows it. -/
def ofStep (own : Grammar) (rest : Program Text Unit) : Step → Program Text Unit
  | .parseThen file source config origin steps =>
    .parseThen ⟨origin.grammar own, config, file, source⟩
      (fun _ => ofSteps own (.done (.ok ())) steps) fun _ => rest
  | .enter steps throwing =>
    let result : Except Text Unit := match throwing with
      | none => .ok ()
      | some message => .error message
    .enter (ofSteps own (.done result) steps) fun _ => rest
  | s => .simple own s fun _ => rest

/-- The steps of a session as a program, with what follows them. -/
def ofSteps (own : Grammar) (rest : Program Text Unit) : List Step → Program Text Unit
  | [] => rest
  | s :: steps => ofStep own (ofSteps own rest steps) s

end

/-- Every session is a program, as far as its context goes. -/
theorem ofSteps_run (own : Grammar) (rest : Program Text Unit) (c : Context) (steps : List Step) :
    (ofSteps own rest steps).run c = rest.run (Session.run own c steps).2 := by
  refine (step.mutual_induct own
    (fun c s => ∀ rest, (ofStep own rest s).run c = rest.run (step own c s).2)
    (fun c steps => ∀ rest, (ofSteps own rest steps).run c = rest.run (Session.run own c steps).2)
    ?_ ?_ ?_ ?_ ?_).2 c steps rest
  · intro c file source config origin steps ih rest
    simp only [ofStep, run, step, Engine.parseThen, Engine.enter, ih]
  · intro c steps throwing ih rest
    cases throwing <;> simp only [ofStep, run, step, Engine.enter, ih]
  · intro c s hparse henter rest
    rw [ofStep, step]
    · rfl
    all_goals assumption
  · intro c rest
    rw [ofSteps]
    rfl
  · intro c s steps reply next hstep answers last hrun ihstep ihsteps rest
    rw [hstep] at ihstep
    rw [hrun] at ihsteps
    simp only [ofSteps, Session.run, hstep, hrun, ihstep, ihsteps]

end Program

/-! ### What steps intern -/

/-- How the grammar ends in a step that parses. -/
def Step.ending? (own : Grammar) : Step → Option Grammar.Ending
  | .parse _ source config origin => some (origin.grammar own config.dialect source).ending
  | .parseThrow _ source config origin _ => some (origin.grammar own config.dialect source).ending
  | .analyze source config _ origin => some (origin.grammar own config.dialect source).ending
  | _ => none

/-- The names that a step without steps of its own interns, in order. -/
def Step.interned (own : Grammar) (active : Bool) : Step → List Text
  | .intern name => if active then [name] else []
  | s => (s.ending? own).elim [] namesOf

theorem withFile_atoms {c : Context} (file : Nat) {answer : SourceFile → Answer × Context}
    (h : ∀ f, (answer f).2.atoms = c.atoms) : (withFile c file answer).2.atoms = c.atoms := by
  unfold withFile
  cases c.sources.files[file]? with
  | none => rfl
  | some f => exact h f

theorem intern_outside (own : Grammar) {c : Context} (h : c.atoms.active = false) (name : Text) :
    simple own c (.intern name) = (.error (.problem (.outsideScope name)), c) := by
  simp only [simple, Atoms.intern_of_inactive h]

/-- Within an open scope, interning answers the id of the name. -/
theorem intern_answers (own : Grammar) {c : Context} (h : c.atoms.active = true) (name : Text) :
    ∃ n : Nat, (c.atoms.insert name).lookup name = some n ∧
      simple own c (.intern name) = (.ok (.number n), {c with atoms := c.atoms.insert name}) := by
  obtain ⟨n, hid, hn⟩ := Atoms.intern_of_active h name
  exact ⟨n, hid, by simp only [simple, hn]⟩

theorem intern_within (own : Grammar) {c : Context} (h : c.atoms.active = true) (name : Text) :
    ∃ n : Nat, simple own c (.intern name) =
      (.ok (.number n), {c with atoms := c.atoms.insert name}) := by
  obtain ⟨n, -, hn⟩ := intern_answers own h name
  exact ⟨n, hn⟩

/-- **What a step without steps of its own does to the table** is to intern names. -/
theorem simple_atoms (own : Grammar) (c : Context) (s : Step) :
    (simple own c s).2.atoms = (s.interned own c.atoms.active).foldl Atoms.insert c.atoms := by
  cases s with
  | parse file source config origin => exact parseModule_atoms _ _ _ _ c
  | parseThrow file source config origin message => exact parseModule_atoms _ _ _ _ c
  | analyze source config dynamic origin => exact parseModule_atoms _ _ _ _ c
  | intern name =>
    cases h : c.atoms.active with
    | false => rw [intern_outside own h]; rfl
    | true =>
      obtain ⟨n, hn⟩ := intern_within own h name
      rw [hn]
      rfl
  | byteOffset file index => exact withFile_atoms file fun _ => rfl
  | position file index => exact withFile_atoms file fun _ => rfl
  | lineText file line =>
    refine withFile_atoms file fun f => ?_
    cases f.lineText? line <;> rfl
  | hasErrors start =>
    simp only [simple]
    cases c.pipeline.hasErrors? start <;> rfl
  | lookup pos =>
    simp only [simple]
    cases c.sources.lookup pos <;> rfl
  | symbol name =>
    simp only [simple]
    cases c.atoms.lookup name <;> rfl
  | format start file =>
    simp only [simple]
    cases Snippet.formatAll? (c.pipeline.snapshot start) (file.bind fun i => c.sources.files[i]?) <;> rfl
  | _ => rfl

/-- A step without steps of its own leaves as many scopes open as there were. -/
theorem simple_depth (own : Grammar) (c : Context) (s : Step) :
    (simple own c s).2.atoms.depth = c.atoms.depth := by
  rw [simple_atoms, Atoms.foldl_insert_depth]

/-! ### The machine -/

/-- A program in the middle of its run. -/
structure Machine (ε α : Type) where
  /-- What goes on from each running body or continuation when it ends, the innermost
  first. -/
  waiting : List (Except ε α → Program ε α)
  program : Program ε α
  context : Context

namespace Machine
variable {ε α : Type}

/-- One step; none is left when the program is done and nothing waits for it. -/
def next? (m : Machine ε α) : Option (Machine ε α) :=
  match m.program, m.waiting with
  | .done _, [] => none
  | .done result, next :: rest =>
    some ⟨rest, next result, {m.context with atoms := m.context.atoms.closed}⟩
  | .simple own s next, waiting =>
    let (reply, c) := Session.simple own m.context s
    some ⟨waiting, next reply, c⟩
  | .parseThen r continuation next, waiting =>
    let (o, c) := r.register {m.context with atoms := m.context.atoms.opened}
    some ⟨next :: waiting, continuation o, c⟩
  | .enter body next, waiting =>
    some ⟨next :: waiting, body, {m.context with atoms := m.context.atoms.opened}⟩

/-- A machine comes from another by steps. -/
abbrev Reaches : Machine ε α → Machine ε α → Prop := ReflTransGen fun m m' => m.next? = some m'

/-- When a body or a continuation ends, what it has thrown or returned is gone on from, and
its scope is closed. -/
theorem Reaches.ends {m : Machine ε α} {next : Except ε α → Program ε α}
    {waiting : List (Except ε α → Program ε α)} {result : Except ε α} {c : Context}
    (h : Reaches m ⟨next :: waiting, .done result, c⟩) :
    Reaches m ⟨waiting, next result, {c with atoms := c.atoms.closed}⟩ :=
  h.tail rfl

/-- **The machine goes where the program goes as a whole**, whatever waits for its end. -/
theorem reaches_done (p : Program ε α) (waiting : List (Except ε α → Program ε α)) (c : Context) :
    Reaches ⟨waiting, p, c⟩ ⟨waiting, .done (p.run c).1, (p.run c).2⟩ := by
  induction p generalizing waiting c with
  | done result => exact .refl
  | simple own s next ih => exact .head rfl (ih _ waiting _)
  | parseThen r continuation next ihwithin ihnext =>
    have hwithin : Reaches ⟨waiting, .parseThen r continuation next, c⟩ _ :=
      .head rfl (ihwithin (r.register {c with atoms := c.atoms.opened}).1 (next :: waiting) _)
    exact hwithin.ends.trans (ihnext _ waiting _)
  | enter body next ihwithin ihnext =>
    have hwithin : Reaches ⟨waiting, .enter body next, c⟩ _ :=
      .head rfl (ihwithin (next :: waiting) {c with atoms := c.atoms.opened})
    exact hwithin.ends.trans (ihnext _ waiting _)

/-- How many scopes are open is how many bodies and continuations are running. -/
def Balanced (m : Machine ε α) : Prop := m.context.atoms.depth = m.waiting.length

theorem step_balanced {m m' : Machine ε α} (hstep : m.next? = some m') (h : m.Balanced) :
    m'.Balanced := by
  obtain ⟨waiting, program, c⟩ := m
  have hdepth : c.atoms.depth = waiting.length := h
  cases program with
  | done result =>
    cases waiting with
    | nil => cases hstep
    | cons next rest =>
      cases hstep
      show c.atoms.depth - 1 = rest.length
      rw [hdepth]
      rfl
  | simple own s next =>
    cases hstep
    exact (simple_depth own c s).trans hdepth
  | parseThen r continuation next =>
    cases hstep
    exact (register_depth _ _ _ _ _).trans (congrArg (· + 1) hdepth)
  | enter body next =>
    cases hstep
    exact congrArg (· + 1) hdepth

theorem Reaches.balanced {m m' : Machine ε α} (hreaches : Reaches m m') (h : m.Balanced) :
    m'.Balanced := by
  induction hreaches with
  | refl => exact h
  | tail _ hstep ih => exact step_balanced hstep ih

theorem Balanced.active_iff {m : Machine ε α} (h : m.Balanced) :
    m.context.atoms.active = true ↔ m.waiting ≠ [] := by
  rw [Atoms.active, show m.context.atoms.depth = _ from h, decide_eq_true_iff, List.length_pos_iff]

/-- A call that is made of a body or a continuation comes to an answer: the body ends with
what the call then throws or returns, and the scope it ran in is closed. -/
def Answers (m : Machine ε α) (next : Except ε α → Program ε α) (answer : Except ε α × Context) :
    Prop :=
  ∃ c, Reaches m ⟨next :: m.waiting, .done answer.1, c⟩ ∧
    answer.2 = {c with atoms := c.atoms.closed} ∧ Reaches m ⟨m.waiting, next answer.1, answer.2⟩

end Machine

/-- After a session, and so after every step of one, the scope is closed. -/
theorem session_closed (own : Grammar) (flags : HandlerFlags) (steps : List Step) :
    (run own (Context.fresh flags) steps).2.atoms.active = false := by
  let program := Program.ofSteps own (.done (.ok ())) steps
  let c := Context.fresh flags
  have hcontext : (program.run c).2 = (run own c steps).2 :=
    congrArg Prod.snd (Program.ofSteps_run own (.done (.ok ())) c steps)
  have hbalanced := (Machine.reaches_done program [] c).balanced rfl
  rw [← hcontext]
  exact Bool.eq_false_iff.mpr fun hopen => hbalanced.active_iff.mp hopen rfl

/-- An error thrown two scopes deep comes out of both, and both are closed. -/
example :
    let p : Program Text Unit := .enter (.enter (.done (.error "odd")) .done) .done
    p.run {} = (.error "odd", {}) := rfl

end EcmaModule.Session
