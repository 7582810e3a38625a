import EcmaModule.Proofs.Engine.Transcript
import Mathlib.Data.List.Forall2

/-! What a parse comes to.

A run reports its complaints in order, and behind them either what was thrown or the
dynamic imports of the tree that are not allowed (`notices`). When nothing was held back
before, a parse appends one record for each notice to the buffer, in order, and nothing
else; it succeeds with the tree of the grammar if there is none, and otherwise fails
with just these records (`parseModule_outcome`). A run that ends with undefined in the place
of a tree has nothing to succeed with, and fails too. -/
namespace EcmaModule.Engine

/-! ### Notices of a run -/

/-- The errors a grammar goes on from. -/
def complaints (events : List Grammar.Event) : List Notice :=
  events.filterMap fun
    | .complaint pos message => some ⟨.recoverable, pos, message, pos⟩
    | .comment _ _ _ _ => none

def isDynamicImport (v : Tree.Visit) : Bool := v.node.isKind "ImportExpression"

/-- What a run reports, in order. -/
def notices (dynamicImport : Bool) (run : Grammar.Run) : List Notice :=
  complaints run.events ++
    match run.ending with
    | .thrown what => [Act.ofThrown what]
    | .tree module =>
      if dynamicImport then []
      else ((Tree.visits module).filter isDynamicImport).map fun v => Act.refused v.node

def Act.notice? : Act → Option Notice
  | notice n => some n
  | _ => none

/-- A dynamic import is no identifier, so its name is never taken instead. -/
theorem identifierName_dynamicImport {v : Tree.Visit} (h : isDynamicImport v = true) :
    identifierName? v.node = none := by
  have hkind : v.node.kind = Text.ofString "ImportExpression" := eq_of_beq h
  have hother : v.node.isKind "Identifier" = false := by
    unfold Tree.Node.isKind
    rw [hkind]
    decide
  simp [identifierName?, hother]

theorem notice_ofVisit (dynamicImport : Bool) (v : Tree.Visit) :
    (Act.ofVisit? dynamicImport v).bind Act.notice? =
      if isDynamicImport v && !dynamicImport then some (Act.refused v.node) else none := by
  cases hv : isDynamicImport v with
  | true =>
    have hkind : v.node.isKind "ImportExpression" = true := hv
    rw [Act.ofVisit?, identifierName_dynamicImport hv, hkind]
    cases dynamicImport <;> rfl
  | false =>
    have hkind : v.node.isKind "ImportExpression" = false := hv
    rw [Act.ofVisit?, hkind]
    cases identifierName? v.node <;> rfl

theorem notices_ofVisits (dynamicImport : Bool) (vs : List Tree.Visit) :
    (vs.filterMap (Act.ofVisit? dynamicImport)).filterMap Act.notice? =
      if dynamicImport then [] else (vs.filter isDynamicImport).map fun v => Act.refused v.node := by
  rw [List.filterMap_filterMap]
  simp only [notice_ofVisit]
  cases dynamicImport with
  | true => simp
  | false =>
    induction vs with
    | nil => rfl
    | cons v rest ih =>
      cases hv : isDynamicImport v <;> simp_all

theorem notices_ofEvents (events : List Grammar.Event) :
    (events.map Act.ofEvent).filterMap Act.notice? = complaints events := by
  rw [complaints, List.filterMap_map]
  congr 1
  funext e
  cases e <;> rfl

theorem notices_ofRun (dynamicImport : Bool) (run : Grammar.Run) :
    (Act.ofRun dynamicImport run).filterMap Act.notice? = notices dynamicImport run := by
  rw [Act.ofRun, List.filterMap_append, notices]
  congr 1
  · exact notices_ofEvents run.events
  · cases run.ending with
    | tree module => exact notices_ofVisits dynamicImport _
    | thrown what => rfl

/-! ### Records of notices -/

/-- A record says what a notice says, in a file of a name and a source. Its span is made
of the byte offsets of the notice's indices, whatever offsets were asked before. -/
structure Notice.RecordedAs (name source : Text) (n : Notice) (r : Record) : Prop where
  code : r.code = n.code.name
  severity : r.severity = .error
  message : r.message = n.message
  file : r.file = name
  span : ∃ asked, r.span = spanOf ((SourceFile.create name source 0).resolveAll asked) n.pos n.stop
  loc : r.loc = (SourceFile.create name source 0).position n.pos
  labels : r.labels = []

theorem record_recordedAs (name source : Text) (asked : List Int) (n : Notice) :
    n.RecordedAs name source (n.record ((SourceFile.create name source 0).resolveAll asked)) := by
  obtain ⟨cursor, h⟩ := SourceFile.resolveAll_eq (SourceFile.create name source 0) asked
  refine ⟨rfl, rfl, rfl, ?_, ⟨asked, rfl⟩, ?_, rfl⟩
  · show ((SourceFile.create name source 0).resolveAll asked).name = name
    rw [h]
    rfl
  · show ((SourceFile.create name source 0).resolveAll asked).position n.pos = _
    rw [h]
    rfl

/-- One record for each notice, in order. -/
theorem records_recordedAs (name source : Text) (asked : List Int) (acts : List Act) :
    List.Forall₂ (Notice.RecordedAs name source) (acts.filterMap Act.notice?)
      (Transcript.ofActs ((SourceFile.create name source 0).resolveAll asked) acts).records := by
  induction acts generalizing asked with
  | nil => exact .nil
  | cons a rest ih =>
    have htail := ih (asked ++ a.asked)
    rw [Transcript.resolveAll_append] at htail
    cases a with
    | comment isBlock text start stop => exact htail
    | notice n => exact .cons (record_recordedAs name source asked n) htail
    | identifier text => exact htail

theorem ofRun_recordedAs (name source : Text) (dynamicImport : Bool) (run : Grammar.Run) :
    List.Forall₂ (Notice.RecordedAs name source) (notices dynamicImport run)
      (Transcript.ofRun name source dynamicImport run).records := by
  rw [← notices_ofRun]
  exact records_recordedAs name source [] _

/-- A run that throws reports something. -/
theorem recorded_of_thrown {name source : Text} {dynamicImport : Bool} {run : Grammar.Run}
    {what : Grammar.Thrown} (h : run.ending = .thrown what) {raised : List Record}
    (hraised : List.Forall₂ (Notice.RecordedAs name source) (notices dynamicImport run) raised) :
    raised ≠ [] := by
  rintro rfl
  have hlength := hraised.length_eq
  simp [notices, h] at hlength

/-! ### Verdicts -/

theorem verdict_ok_iff {records : List Record} {ending : Grammar.Ending} {module : Value} :
    verdict records ending = .ok module ↔
      ending.module? = some module ∧ ∀ r ∈ records, r.severity ≠ .error := by
  unfold verdict
  cases ending.module? with
  | none => exact iff_of_false nofun fun h => nomatch h.1
  | some tree =>
    by_cases h : records.any (fun r => r.severity == .error) = true
    · have herror : ¬ ∀ r ∈ records, r.severity ≠ .error := by simpa using h
      simp [h, herror]
    · have hnone : ∀ r ∈ records, r.severity ≠ .error := by simpa using h
      simp only [if_neg h, Outcome.ok.injEq, Option.some.injEq]
      exact ⟨fun heq => ⟨heq, hnone⟩, fun heq => heq.1⟩

theorem verdict_failed_iff {records : List Record} {ending : Grammar.Ending} {failure : Failure} :
    verdict records ending = .failed failure ↔
      failure.diagnostics = records ∧
        (ending.module? = none ∨ ∃ r ∈ records, r.severity = .error) := by
  have hfailure : Outcome.failed ⟨records⟩ = .failed failure ↔ failure.diagnostics = records := by
    constructor
    · intro h
      cases h
      rfl
    · rintro rfl
      rfl
  unfold verdict
  cases ending.module? with
  | none => simp [hfailure]
  | some tree =>
    by_cases h : records.any (fun r => r.severity == .error) = true
    · have herror : ∃ r ∈ records, r.severity = .error := by simpa using h
      simp [h, hfailure, herror]
    · have hnone : ¬ ∃ r ∈ records, r.severity = .error := by simpa using h
      simp [h, hnone]

section Raised
variable {held raised : List Record} {ending : Grammar.Ending}

/-- Errors that were raised leave nothing to decide to the records held back. -/
theorem verdict_raised_ok_iff (herror : ∀ r ∈ raised, r.severity = .error) {module : Value} :
    verdict (held ++ raised) ending = .ok module ↔
      ending.module? = some module ∧ raised = [] ∧ ∀ r ∈ held, r.severity ≠ .error := by
  rw [verdict_ok_iff]
  refine and_congr_right fun _ => ⟨fun hnone => ⟨?_, fun r hr => ?_⟩, fun h r hr => ?_⟩
  · exact List.eq_nil_iff_forall_not_mem.mpr fun r hr =>
      hnone r (List.mem_append_right held hr) (herror r hr)
  · exact hnone r (List.mem_append_left raised hr)
  · obtain ⟨rfl, hheld⟩ := h
    rw [List.append_nil] at hr
    exact hheld r hr

theorem verdict_raised_failed_iff (herror : ∀ r ∈ raised, r.severity = .error)
    (hthrown : ∀ what, ending = .thrown what → raised ≠ []) {failure : Failure} :
    verdict (held ++ raised) ending = .failed failure ↔
      failure.diagnostics = held ++ raised ∧
        (raised ≠ [] ∨ ending = .tree .undefined ∨ ∃ r ∈ held, r.severity = .error) := by
  rw [verdict_failed_iff, module_eq_none_iff]
  refine and_congr_right fun _ => ⟨fun hfail => ?_, fun hfail => ?_⟩
  · rcases hfail with (⟨what, hwhat⟩ | hundefined) | ⟨r, hr, hsevere⟩
    · exact .inl (hthrown what hwhat)
    · exact .inr (.inl hundefined)
    · rcases List.mem_append.mp hr with hr | hr
      · exact .inr (.inr ⟨r, hr, hsevere⟩)
      · exact .inl (List.ne_nil_of_mem hr)
  · rcases hfail with hne | hundefined | ⟨r, hr, hsevere⟩
    · obtain ⟨r, hr⟩ := List.exists_mem_of_ne_nil _ hne
      exact .inr ⟨r, List.mem_append_right held hr, herror r hr⟩
    · exact .inl (.inr hundefined)
    · exact .inr ⟨r, List.mem_append_left raised hr, hsevere⟩

end Raised

/-! ### Interning within a parse -/

theorem perform_depth (file : Nat) (c : Context) (a : Act) :
    (a.perform file c).atoms.depth = c.atoms.depth := by
  cases a with
  | identifier name => exact Atoms.insert_depth c.atoms name
  | _ => rfl

theorem foldl_perform_depth (file : Nat) (acts : List Act) (c : Context) :
    (acts.foldl (Act.perform file) c).atoms.depth = c.atoms.depth := by
  induction acts generalizing c with
  | nil => rfl
  | cons a rest ih => rw [List.foldl_cons, ih, perform_depth]

/-- A parse leaves as many scopes open as there were. -/
theorem register_depth (grammar : Grammar) (config : Configuration) (name source : Text) (c : Context) :
    (register grammar config name source c).2.atoms.depth = c.atoms.depth := by
  have hacts := Act.run_eq c.sources.files.length config.dynamicImport
    {c with sources := c.sources.newFile name source} (grammar config.dialect source)
  show (conclude _ _ _ _).atoms.depth = _
  rw [hacts, foldl_perform_depth]

theorem parseModule_depth (grammar : Grammar) (config : Configuration) (name source : Text)
    (c : Context) : (parseModule grammar config name source c).2.atoms.depth = c.atoms.depth :=
  congrArg (· - 1) (register_depth grammar config name source {c with atoms := c.atoms.opened})

/-- What a parse raises goes behind the records held back, and both decide the outcome.
All of it is errors, and a run that throws raises something. -/
theorem parseModule_raised (grammar : Grammar) (config : Configuration) (name source : Text)
    {c : Context} (hc : c.pipeline.Orderly) :
    let run := grammar config.dialect source
    ∃ raised c',
      parseModule grammar config name source c = (verdict (c.pipeline.pending ++ raised) run.ending, c') ∧
      List.Forall₂ (Notice.RecordedAs name source) (notices config.dynamicImport run) raised ∧
      (∀ r ∈ raised, r.severity = .error) ∧ (∀ what, run.ending = .thrown what → raised ≠ []) ∧
      c'.pipeline = {c.pipeline with
        buffer := c.pipeline.buffer ++ c.pipeline.pending ++ raised, pending := []} := by
  intro run
  have hrecorded := ofRun_recordedAs name source config.dynamicImport run
  have herror := Transcript.ofRun_error name source config.dynamicImport run
  exact ⟨_, _, parseModule_eq grammar config name source hc, hrecorded, herror,
    fun _ h => recorded_of_thrown h hrecorded, parsed_pipeline herror name source hc⟩

/-- When nothing was held back, a parse succeeds if its run ends with a tree and reports
nothing. -/
theorem parseModule_ok_iff (grammar : Grammar) (config : Configuration) (name source : Text)
    {c : Context} (hheld : c.pipeline.pending = []) (module : Value) :
    let run := grammar config.dialect source
    (parseModule grammar config name source c).1 = .ok module ↔
      run.ending.module? = some module ∧ notices config.dynamicImport run = [] := by
  intro run
  obtain ⟨raised, c', hparse, hrecorded, herror, _, _⟩ :=
    parseModule_raised grammar config name source (Pipeline.orderly_of_empty hheld)
  have hnone : raised = [] ↔ notices config.dynamicImport run = [] := by
    rw [← List.length_eq_zero_iff, ← hrecorded.length_eq, List.length_eq_zero_iff]
  rw [hparse, hheld, verdict_raised_ok_iff herror, hnone]
  exact and_congr_right fun _ => and_iff_left fun r hr => absurd hr List.not_mem_nil

end EcmaModule.Engine
