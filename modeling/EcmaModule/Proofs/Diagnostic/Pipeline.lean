import EcmaModule.Diagnostic.Handler

/-! Errors through the pipeline.

The policy never touches an error. As long as a pipeline that forwards at once holds
nothing back, emitted errors come after all records that were there before, and one
flush moves all of them to the buffer in the order they were raised
(`flush_emitAll`). -/
namespace EcmaModule.Pipeline

/-- Nothing is held back by a pipeline that forwards at once. -/
def Orderly (p : Pipeline) : Prop := p.flags.dontBufferDiagnostics = true → p.pending = []

theorem orderly_of_empty {p : Pipeline} (h : p.pending = []) : Orderly p := fun _ => h

theorem push_orderly {p : Pipeline} (h : Orderly p) (r : Record) : Orderly (p.push r) := h

theorem flush_orderly (p : Pipeline) : Orderly p.flush := fun _ => rfl

theorem emit_orderly {p : Pipeline} (h : Orderly p) (r : Record) : Orderly (p.emit r) := by
  unfold emit
  cases p.flags.accept r with
  | none => exact h
  | some r =>
    by_cases hd : p.flags.dontBufferDiagnostics = true
    · show Orderly (if _ then _ else _)
      rw [if_pos hd]
      exact push_orderly h r
    · show Orderly (if _ then _ else _)
      rw [if_neg hd]
      exact fun hd' => absurd hd' hd

theorem accept_error (flags : HandlerFlags) {r : Record} (h : r.severity = .error) :
    flags.accept r = some r := by
  simp [HandlerFlags.accept, h]

/-- What reaches the buffer when errors are raised and all is flushed. Errors that are
forwarded go ahead of the records held, and errors that are held as well go behind. -/
def reported (p : Pipeline) (raised : List Record) : List Record :=
  if p.flags.dontBufferDiagnostics then raised ++ p.pending else p.pending ++ raised

theorem reported_orderly {p : Pipeline} (hp : Orderly p) (raised : List Record) :
    p.reported raised = p.pending ++ raised := by
  unfold reported
  split
  · next hd => rw [hp hd, List.append_nil, List.nil_append]
  · rfl

/-- Errors reach the buffer in the order they were raised, whatever was held. -/
theorem flush_errors {p : Pipeline} {rs : List Record} (hrs : ∀ r ∈ rs, r.severity = .error) :
    (rs.foldl emit p).flush = {p with buffer := p.buffer ++ p.reported rs, pending := []} := by
  induction rs generalizing p with
  | nil => simp [flush, reported]
  | cons r rest ih =>
    have haccept := accept_error p.flags (hrs r List.mem_cons_self)
    rw [List.foldl_cons, ih fun r' h => hrs r' (List.mem_cons_of_mem r h)]
    cases hd : p.flags.dontBufferDiagnostics <;> simp [emit, haccept, hd, push, reported]

/-- **Errors reach the buffer in order, behind the records held before.** -/
theorem flush_emitAll {p : Pipeline} (hp : Orderly p) {rs : List Record}
    (hrs : ∀ r ∈ rs, r.severity = .error) :
    (rs.foldl emit p).flush = {p with buffer := p.buffer ++ p.pending ++ rs, pending := []} := by
  rw [flush_errors hrs, reported_orderly hp, List.append_assoc]

end EcmaModule.Pipeline
