import EcmaModule.Proofs.Engine.Outcome

/-! Continuations of a parse.

A continuation runs when its parse is over, but before the scope of the parse is closed. So
all of a parse has happened when the continuation takes over: it is handed the outcome of the
plain parse, in the context that the plain parse leaves, within one scope more
(`register_opened`). What comes out of the call is what the continuation throws or returns,
and a continuation that leaves the context alone leaves what the plain parse leaves
(`parseThen_plain`). An analysis is a case of this. -/
namespace EcmaModule.Engine

section Call
variable (grammar : Grammar) (config : Configuration) (name source : Text) (c : Context)

/-- **The parse of a call with a continuation is the plain parse**, its scope being still open. -/
theorem register_opened :
    let plain := parseModule grammar config name source c
    register grammar config name source {c with atoms := c.atoms.opened} =
      (plain.1, {plain.2 with atoms := plain.2.atoms.opened}) := by
  intro plain
  let parsed := register grammar config name source {c with atoms := c.atoms.opened}
  have hactive : parsed.2.atoms.active = true := by
    have hdepth : parsed.2.atoms.depth = c.atoms.depth + 1 := register_depth _ _ _ _ _
    rw [Atoms.active, hdepth]
    exact decide_eq_true (Nat.succ_pos _)
  show parsed = (parsed.1, {parsed.2 with atoms := parsed.2.atoms.closed.opened})
  rw [Atoms.opened_closed hactive]

/-- A call comes to what the continuation makes of the plain parse, and the scope is closed
behind it. -/
theorem parseThen_eq {ε α : Type} (continuation : Outcome → Context → Except ε α × Context) :
    let plain := parseModule grammar config name source c
    let result := continuation plain.1 {plain.2 with atoms := plain.2.atoms.opened}
    parseThen grammar config name source continuation c =
      (result.1, {result.2 with atoms := result.2.atoms.closed}) := by
  simp only [parseThen, enter, register_opened]

/-- A continuation that leaves the context alone leaves what the plain parse leaves. -/
theorem parseThen_alone {ε α : Type} (continuation : Outcome → Context → Except ε α × Context) :
    let plain := parseModule grammar config name source c
    let seen : Context := {plain.2 with atoms := plain.2.atoms.opened}
    (continuation plain.1 seen).2 = seen →
      parseThen grammar config name source continuation c = ((continuation plain.1 seen).1, plain.2) := by
  intro plain seen halone
  rw [parseThen_eq]
  -- `seen` is the plain parse's context within one scope more, and that scope is closed again.
  exact Prod.ext rfl (congrArg (fun s : Context => {s with atoms := s.atoms.closed}) halone)

/-- The continuation of an analysis: it lists the dependencies and leaves the context alone. -/
def listThen {ε : Type} (dynamic : Bool) (o : Outcome) (c : Context) : Except ε Listing × Context :=
  (.ok (listing dynamic o), c)

/-- An analysis is a parse with the continuation that lists. -/
theorem parseThen_listThen {ε : Type} (dynamic : Bool) :
    let analysis := analyze grammar config dynamic source c
    parseThen grammar config (analysisName config.dialect) source (listThen (ε := ε) dynamic) c =
      (.ok analysis.1, analysis.2) :=
  parseThen_eq grammar config (analysisName config.dialect) source c (listThen dynamic)

end Call

theorem listing_ok_iff {dynamic : Bool} {o : Outcome} {specifiers : List Text} :
    listing dynamic o = .ok specifiers ↔
      ∃ module, o = .ok module ∧ specifiers = Dependency.collect dynamic module := by
  cases o with
  | ok module => simp [listing, eq_comm]
  | failed failure => simp [listing]

theorem listing_failed_iff {dynamic : Bool} {o : Outcome} {failure : Failure} :
    listing dynamic o = .failed failure ↔ o = .failed failure := by
  cases o <;> simp [listing]

/-- **A continuation sees, and leaves, the plain parse.** In any context, a continuation is
handed the outcome of the parse without it, in the context which that parse leaves but for
the scope, which is open. What the continuation throws or returns comes out of the call, and
the scope is closed; so a continuation that has left the context alone has left just what the
plain parse leaves. An analysis is the parse under its own name, with the continuation that
lists: it leaves what the parse leaves, fails if the parse fails, with the same failure, and
otherwise has listed the dependencies of the module. -/
theorem parseThen_plain (grammar : Grammar) (config : Configuration) (name source : Text)
    (c : Context) :
    let plain := parseModule grammar config name source c
    let seen : Context := {plain.2 with atoms := plain.2.atoms.opened}
    seen.atoms.active = true ∧ plain.2.atoms.depth = c.atoms.depth ∧
      (∀ {ε α : Type} (continuation : Outcome → Context → Except ε α × Context),
        let result := continuation plain.1 seen
        let call := parseThen grammar config name source continuation c
        call = (result.1, {result.2 with atoms := result.2.atoms.closed}) ∧
          (result.2 = seen → call = (result.1, plain.2))) ∧
      ∀ dynamic : Bool,
        let named := parseModule grammar config (analysisName config.dialect) source c
        let analysis := analyze grammar config dynamic source c
        (∀ {ε : Type},
          parseThen grammar config (analysisName config.dialect) source (listThen (ε := ε) dynamic) c =
            (.ok analysis.1, analysis.2)) ∧
          analysis.2 = named.2 ∧
          (∀ failure, analysis.1 = .failed failure ↔ named.1 = .failed failure) ∧
          ∀ specifiers, analysis.1 = .ok specifiers ↔
            ∃ module, named.1 = .ok module ∧ specifiers = Dependency.collect dynamic module := by
  intro plain seen
  refine ⟨decide_eq_true (Nat.succ_pos _), parseModule_depth grammar config name source c,
    fun continuation => ?_, fun dynamic => ?_⟩
  · exact ⟨parseThen_eq grammar config name source c continuation,
      parseThen_alone grammar config name source c continuation⟩
  · exact ⟨parseThen_listThen grammar config source c dynamic, rfl, fun _ => listing_failed_iff,
      fun _ => listing_ok_iff⟩

/-- A continuation that throws within a scope, behind a parse that has failed with a record
held, leaves what that parse leaves. -/
theorem throwing_leavesPlain :
    let held : Record := ⟨"E_HELD", .warning, "held back", "earlier.js", ⟨0, 0⟩, ⟨1, 0⟩, []⟩
    let c : Context :=
      {atoms := ⟨["x"], 1⟩, pipeline := {flags := {dontBufferDiagnostics := false}, pending := [held]}}
    let grammar : Grammar := fun _ _ =>
      ⟨[.comment true "note" 0 1, .complaint 1 "odd"], .thrown (.other "fault")⟩
    let throwing : Outcome → Context → Except Text Unit × Context := fun _ c => (.error "thrown", c)
    let plain := parseModule grammar {} "a.ts" "é;" c
    let seen : Context := {plain.2 with atoms := plain.2.atoms.opened}
    (throwing plain.1 seen).2 = seen ∧ plain.2.pipeline.buffer.length = 3 ∧
      parseThen grammar {} "a.ts" "é;" throwing c = (.error "thrown", plain.2) := by
  intro held c grammar throwing plain seen
  obtain ⟨-, -, hcalls, -⟩ := parseThen_plain grammar {} "a.ts" "é;" c
  have hbuffer : plain.2.pipeline.buffer.length = 3 := by decide +kernel
  exact ⟨rfl, hbuffer, (hcalls throwing).2 rfl⟩

end EcmaModule.Engine
