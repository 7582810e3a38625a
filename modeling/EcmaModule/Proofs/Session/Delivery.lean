import EcmaModule.Proofs.Diagnostic.Pipeline
import EcmaModule.Session

/-! What becomes of the records of a session.

A client emits records through the handler, pushes others past it, and flushes when it
likes. To tell the two apart, a traced pipeline keeps with each record the way it came;
without the ways it is the pipeline of the context (`run_calls`). No call loses, repeats or
overtakes a record (`Delivered.perform`): those that came through the handler are the ones
the policy lets through, in the order in which they were emitted, and those that came
directly stand in the buffer as they were pushed (`calls_delivered`). So whether a handler
holds records back shows only in when they reach the buffer. -/
namespace EcmaModule

/-! ### The policy -/

namespace HandlerFlags

/-- Errors pass always, warnings if they may be emitted at all. -/
def admits (flags : HandlerFlags) (r : Record) : Bool := r.severity == .error || flags.canEmitWarnings

/-- A record that passes, as the policy hands it on. -/
def promoted (flags : HandlerFlags) (r : Record) : Record :=
  if flags.treatWarningsAsErrors then {r with severity := .error} else r

theorem promoted_error (flags : HandlerFlags) {r : Record} (h : r.severity = .error) :
    flags.promoted r = r := by
  unfold promoted
  split
  · rw [← h]
  · rfl

theorem accept_eq (flags : HandlerFlags) (r : Record) :
    flags.accept r = if flags.admits r then some (flags.promoted r) else none := by
  cases h : r.severity with
  | error => rw [Pipeline.accept_error flags h, promoted_error flags h, admits, h]; rfl
  | warning => simp [accept, admits, promoted, h]

theorem filterMap_accept (flags : HandlerFlags) (rs : List Record) :
    rs.filterMap flags.accept = (rs.filter flags.admits).map flags.promoted := by
  induction rs with
  | nil => rfl
  | cons r rest ih =>
    rw [List.filterMap_cons, accept_eq, List.filter_cons, ih]
    cases flags.admits r <;> rfl

end HandlerFlags

namespace Session

/-! ### Calls -/

/-- A call on the diagnostics of a context. -/
inductive Call where
  | emit (r : Record)
  /-- To the emitter, past the handler. -/
  | forward (r : Record)
  | push (r : Record)
  | flush
  deriving DecidableEq

namespace Call

def step : Call → Step
  | emit r => .emit r
  | forward r | push r => .push r
  | flush => .flush

def perform (p : Pipeline) : Call → Pipeline
  | emit r => p.emit r
  | forward r | push r => p.push r
  | flush => p.flush

/-- The record a call hands to the handler. -/
def emitted? : Call → Option Record
  | emit r => some r
  | _ => none

/-- The record a call hands to the buffer, past the handler. -/
def direct? : Call → Option Record
  | forward r | push r => some r
  | _ => none

end Call

/-- The pipeline of a new context after some calls. -/
def pipelineAfter (own : Grammar) (flags : HandlerFlags) (calls : List Call) : Pipeline :=
  (run own (Context.fresh flags) (calls.map Call.step)).2.pipeline

theorem run_steps (own : Grammar) (c : Context) (calls : List Call) :
    (run own c (calls.map Call.step)).2 = {c with pipeline := calls.foldl Call.perform c.pipeline} := by
  induction calls generalizing c with
  | nil => rfl
  | cons call rest ih =>
    have hstep : (step own c call.step).2 = {c with pipeline := call.perform c.pipeline} := by
      cases call <;> rfl
    show (run own (step own c call.step).2 (rest.map Call.step)).2 = _
    rw [hstep, ih]
    rfl

/-! ### Ways through the pipeline -/

/-- How a record has come. -/
inductive Route where
  | handled
  | direct
  deriving DecidableEq

/-- A pipeline that remembers how each record has come. -/
structure Traced where
  flags : HandlerFlags
  buffer : List (Route × Record) := []
  pending : List (Route × Record) := []

/-- The records that have come one way, in order. -/
def cameBy (route : Route) (ds : List (Route × Record)) : List Record :=
  (ds.filter fun d => d.1 = route).map Prod.snd

@[simp] theorem cameBy_nil (route : Route) : cameBy route [] = [] := rfl

@[simp] theorem cameBy_cons (route way : Route) (r : Record) (ds : List (Route × Record)) :
    cameBy route ((way, r) :: ds) = (if way = route then [r] else []) ++ cameBy route ds := by
  by_cases h : way = route <;> simp [cameBy, h]

@[simp] theorem cameBy_append (route : Route) (a b : List (Route × Record)) :
    cameBy route (a ++ b) = cameBy route a ++ cameBy route b := by
  simp [cameBy]

namespace Traced

def contents (t : Traced) : List (Route × Record) := t.buffer ++ t.pending

/-- The pipeline, the ways forgotten. -/
def pipeline (t : Traced) : Pipeline where
  flags := t.flags
  buffer := t.buffer.map Prod.snd
  pending := t.pending.map Prod.snd

/-- A record that has passed the policy reaches the buffer at once, or is held. -/
def pass (t : Traced) (r : Record) : Traced :=
  if t.flags.dontBufferDiagnostics then {t with buffer := t.buffer ++ [(.handled, r)]}
  else {t with pending := t.pending ++ [(.handled, r)]}

def perform (t : Traced) : Call → Traced
  | .emit r => (t.flags.accept r).elim t t.pass
  | .forward r | .push r => {t with buffer := t.buffer ++ [(.direct, r)]}
  | .flush => {t with buffer := t.buffer ++ t.pending, pending := []}

theorem perform_pipeline (t : Traced) (call : Call) :
    (t.perform call).pipeline = call.perform t.pipeline := by
  cases call with
  | emit r =>
    have hflags : t.pipeline.flags = t.flags := rfl
    simp only [perform, Call.perform, Pipeline.emit, hflags]
    cases t.flags.accept r with
    | none => rfl
    | some accepted =>
      by_cases h : t.flags.dontBufferDiagnostics = true <;> simp [pass, pipeline, Pipeline.push, h]
  | forward r | push r => simp [perform, pipeline, Call.perform, Pipeline.push]
  | flush => simp [perform, pipeline, Call.perform, Pipeline.flush]

theorem perform_flags (t : Traced) (call : Call) : (t.perform call).flags = t.flags := by
  cases call with
  | emit r =>
    rw [perform]
    cases t.flags.accept r with
    | none => rfl
    | some accepted => exact (apply_ite Traced.flags ..).trans (ite_self _)
  | forward r | push r | flush => rfl

/-- The traced pipeline of a new context after some calls. -/
def after (flags : HandlerFlags) (calls : List Call) : Traced := calls.foldl perform {flags}

theorem foldl_pipeline (t : Traced) (calls : List Call) :
    (calls.foldl perform t).pipeline = calls.foldl Call.perform t.pipeline := by
  induction calls generalizing t with
  | nil => rfl
  | cons call rest ih => rw [List.foldl_cons, ih, perform_pipeline, List.foldl_cons]

end Traced

/-- A session's pipeline is the traced one, the ways forgotten. -/
theorem run_calls (own : Grammar) (flags : HandlerFlags) (calls : List Call) :
    (Traced.after flags calls).pipeline = pipelineAfter own flags calls := by
  rw [pipelineAfter, run_steps]
  exact Traced.foldl_pipeline _ calls

/-! ### What one call delivers -/

section Call
variable {t : Traced}

theorem perform_orderly (h : t.pipeline.Orderly) (call : Call) : (t.perform call).pipeline.Orderly := by
  rw [t.perform_pipeline call]
  cases call with
  | emit r => exact Pipeline.emit_orderly h r
  | forward r | push r => exact Pipeline.push_orderly h r
  | flush => exact Pipeline.flush_orderly _

/-- A record that passes gets behind all others: one forwarded at once finds none held. -/
theorem contents_pass (h : t.pipeline.Orderly) (r : Record) :
    (t.pass r).contents = t.contents ++ [(.handled, r)] := by
  unfold Traced.pass Traced.contents
  by_cases hd : t.flags.dontBufferDiagnostics = true
  · have hnone : t.pending = [] := List.map_eq_nil_iff.mp (h hd)
    simp [hd, hnone]
  · simp [hd]

/-- The records that came through the handler gain the one emitted, if it is accepted. -/
theorem handled_perform (h : t.pipeline.Orderly) (call : Call) :
    cameBy .handled (t.perform call).contents =
      cameBy .handled t.contents ++ (call.emitted?.bind t.flags.accept).toList := by
  cases call with
  | emit r =>
    show cameBy .handled ((t.flags.accept r).elim t t.pass).contents = _ ++ (t.flags.accept r).toList
    cases t.flags.accept r with
    | none => exact (List.append_nil _).symm
    | some accepted =>
      rw [Option.elim_some, contents_pass h]
      simp
  | forward r | push r => simp [Traced.perform, Traced.contents, Call.emitted?]
  | flush => simp [Traced.perform, Traced.contents, Call.emitted?]

/-- The records that came directly gain the one pushed, and none of them is held. -/
theorem direct_perform (h : cameBy .direct t.pending = []) (call : Call) :
    cameBy .direct (t.perform call).buffer = cameBy .direct t.buffer ++ call.direct?.toList ∧
      cameBy .direct (t.perform call).pending = [] := by
  cases call with
  | emit r =>
    rw [Traced.perform]
    cases t.flags.accept r with
    | none => exact ⟨(List.append_nil _).symm, h⟩
    | some accepted =>
      rw [Option.elim_some, Traced.pass]
      by_cases hd : t.flags.dontBufferDiagnostics = true <;> simp [hd, h, Call.direct?]
  | forward r | push r => simp [Traced.perform, Call.direct?, h]
  | flush => simp [Traced.perform, Call.direct?, h]

end Call

/-! ### What a session delivers -/

/-- What some calls have brought is there, each way in its order. -/
structure Delivered (flags : HandlerFlags) (calls : List Call) (t : Traced) : Prop where
  policy : t.flags = flags
  orderly : t.pipeline.Orderly
  handled : cameBy .handled t.contents = (calls.filterMap Call.emitted?).filterMap flags.accept
  direct : cameBy .direct t.buffer = calls.filterMap Call.direct?
  held : cameBy .direct t.pending = []

theorem fresh_delivered (flags : HandlerFlags) : Delivered flags [] {flags} :=
  ⟨rfl, fun _ => rfl, rfl, rfl, rfl⟩

theorem Delivered.perform {flags : HandlerFlags} {calls : List Call} {t : Traced}
    (h : Delivered flags calls t) (call : Call) :
    Delivered flags (calls ++ [call]) (t.perform call) := by
  obtain ⟨hdirect, hheld⟩ := direct_perform h.held call
  refine ⟨(t.perform_flags call).trans h.policy, perform_orderly h.orderly call, ?_, ?_, hheld⟩
  · rw [handled_perform h.orderly, h.handled, h.policy, List.filterMap_append, List.filterMap_append]
    cases hr : call.emitted? with
    | none => simp [hr]
    | some r => cases ha : flags.accept r <;> simp [hr, ha]
  · rw [hdirect, h.direct, List.filterMap_append]
    cases hr : call.direct? <;> simp [hr]

theorem Delivered.performAll {flags : HandlerFlags} {done : List Call} {t : Traced}
    (h : Delivered flags done t) (calls : List Call) :
    Delivered flags (done ++ calls) (calls.foldl Traced.perform t) := by
  induction calls generalizing done t with
  | nil => rwa [List.append_nil]
  | cons call rest ih =>
    have hnext := ih (h.perform call)
    rwa [List.append_assoc] at hnext

theorem after_delivered (flags : HandlerFlags) (calls : List Call) :
    Delivered flags calls (.after flags calls) :=
  (fresh_delivered flags).performAll calls

/-! ### With and without holding back -/

theorem cameBy_handled_of_direct {ds : List (Route × Record)} (h : cameBy .direct ds = []) :
    cameBy .handled ds = ds.map Prod.snd := by
  induction ds with
  | nil => rfl
  | cons d rest ih =>
    obtain ⟨way, r⟩ := d
    cases way with
    | direct => simp at h
    | handled => simpa using ih (by simpa using h)

/-- Without direct records, what is in the buffer or held is what was emitted and accepted. -/
theorem contents_of_handled (own : Grammar) (flags : HandlerFlags) {calls : List Call}
    (h : ∀ call ∈ calls, call.direct? = none) :
    let p := pipelineAfter own flags calls
    p.buffer ++ p.pending = (calls.filterMap Call.emitted?).filterMap flags.accept := by
  have hdelivered := after_delivered flags calls
  have hdirect : cameBy .direct (Traced.after flags calls).contents = [] := by
    rw [Traced.contents, cameBy_append, hdelivered.direct, hdelivered.held, List.append_nil]
    exact List.filterMap_eq_nil_iff.mpr h
  rw [← run_calls, ← hdelivered.handled, cameBy_handled_of_direct hdirect]
  exact List.map_append.symm

theorem flushed_pending (own : Grammar) (flags : HandlerFlags) {calls : List Call}
    (h : calls.getLast? = some .flush) : (pipelineAfter own flags calls).pending = [] := by
  obtain ⟨before, rfl⟩ := List.getLast?_eq_some_iff.mp h
  rw [pipelineAfter, run_steps, List.foldl_append]
  rfl

/-- **Nothing is lost, repeated or overtaken.** Whatever calls a client makes on a new context,
in whatever order, the records that came through the handler are those emitted that the policy
admits, as it hands them on, in the order of emission, whether in the buffer or held behind it;
and the records that came directly are in the buffer, in the order in which they were pushed.
Without direct records, two handlers that differ in nothing but holding back have the same
records after every call, and the same buffer after a flush. -/
theorem calls_delivered (own : Grammar) (flags : HandlerFlags) (calls : List Call) :
    let t := Traced.after flags calls
    t.pipeline = pipelineAfter own flags calls ∧
      cameBy .handled t.contents =
        ((calls.filterMap Call.emitted?).filter flags.admits).map flags.promoted ∧
      (∀ r, r.severity = .error → flags.admits r = true ∧ flags.promoted r = r) ∧
      cameBy .direct t.buffer = calls.filterMap Call.direct? ∧ cameBy .direct t.pending = [] ∧
      ∀ atOnce, (∀ call ∈ calls, call.direct? = none) → ∀ done, done <+: calls →
        let p := pipelineAfter own flags done
        let q := pipelineAfter own {flags with dontBufferDiagnostics := atOnce} done
        p.buffer ++ p.pending = q.buffer ++ q.pending ∧
          (done.getLast? = some .flush → p.buffer = q.buffer) := by
  intro t
  have hdelivered := after_delivered flags calls
  refine ⟨run_calls own flags calls, ?_, fun r hr => ⟨?_, flags.promoted_error hr⟩,
    hdelivered.direct, hdelivered.held, fun atOnce hhandled done hdone => ?_⟩
  · rw [hdelivered.handled, HandlerFlags.filterMap_accept]
  · simp [HandlerFlags.admits, hr]
  · intro p q
    have hsub : ∀ call ∈ done, call.direct? = none := fun call h => hhandled call (hdone.subset h)
    -- What the policy accepts does not depend on holding back.
    have hsame : p.buffer ++ p.pending = q.buffer ++ q.pending :=
      (contents_of_handled own flags hsub).trans
        (contents_of_handled own {flags with dontBufferDiagnostics := atOnce} hsub).symm
    refine ⟨hsame, fun hflush => ?_⟩
    rwa [flushed_pending own flags hflush, flushed_pending own _ hflush, List.append_nil,
      List.append_nil] at hsame

/-- A promoted warning waits for the flush, behind a record that was pushed later. -/
example :
    let warning : Record := ⟨"W", .warning, "odd", "a.js", ⟨0, 0⟩, ⟨1, 0⟩, []⟩
    let pushed : Record := ⟨"E", .error, "bad", "a.js", ⟨0, 0⟩, ⟨1, 0⟩, []⟩
    (pipelineAfter (fun _ _ => ⟨[], .tree .null⟩) ⟨false, true, true⟩
      [.emit warning, .push pushed, .flush]).buffer = [pushed, {warning with severity := .error}] := by
  decide

end Session

end EcmaModule
