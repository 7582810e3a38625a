import EcmaModule.Diagnostic.Record

/-! The diagnostic pipeline: a policy for warnings, a stage that may hold records
back, and a buffer that only grows.

A record handed to `emit` passes the policy and then reaches the buffer at once or
waits for `flush`; `push` reaches the buffer directly. Nothing leaves the buffer:
callers see snapshots. -/
namespace EcmaModule

structure HandlerFlags where
  /-- Forward every record as soon as it is raised. -/
  dontBufferDiagnostics : Bool := true
  canEmitWarnings : Bool := true
  treatWarningsAsErrors : Bool := false
  deriving DecidableEq, Repr

/-- The flags in force, the records in order of detection, and the records held back. -/
structure Pipeline where
  flags : HandlerFlags := {}
  buffer : List Record := []
  pending : List Record := []
  deriving DecidableEq, Repr

namespace HandlerFlags

/-- What the policy makes of a record: errors pass, a warning may be dropped or promoted. -/
def accept (flags : HandlerFlags) (r : Record) : Option Record :=
  match r.severity with
  | .error => some r
  | .warning =>
    if flags.canEmitWarnings then
      some (if flags.treatWarningsAsErrors then { r with severity := .error } else r)
    else none

end HandlerFlags

namespace Pipeline

/-- Appends to the buffer, past the policy. -/
def push (p : Pipeline) (r : Record) : Pipeline := { p with buffer := p.buffer ++ [r] }

def emit (p : Pipeline) (r : Record) : Pipeline :=
  match p.flags.accept r with
  | none => p
  | some r =>
    if p.flags.dontBufferDiagnostics then p.push r else { p with pending := p.pending ++ [r] }

/-- Moves the held records to the buffer. -/
def flush (p : Pipeline) : Pipeline := { p with buffer := p.buffer ++ p.pending, pending := [] }

/-- The records from an index on; a negative index counts from the end. -/
def snapshot (p : Pipeline) (start : Int) : List Record :=
  p.buffer.drop (Text.clampBound p.buffer.length start)

/-- Whether a record from an index on is an error; there is no record before the first. -/
def hasErrors? (p : Pipeline) (start : Int) : Option Bool :=
  if start < 0 then none else some ((p.buffer.drop start.toNat).any fun r => r.severity == .error)

end Pipeline

end EcmaModule
