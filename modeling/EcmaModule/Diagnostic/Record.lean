import EcmaModule.Text.Basic
import EcmaModule.Value

/-! Diagnostic records.

A record names a code, a severity, a message, the file it points into, a byte
span, the line and column of its start, and labels. `Failure` is the value of a
failed parse: the records raised by it, joined for a one-line report. -/
namespace EcmaModule

inductive Severity where
  | error
  | warning
  deriving DecidableEq, Repr

/-- Byte offsets into one source file; `hi` is exclusive. -/
structure Span where
  lo : Int
  hi : Int
  deriving DecidableEq, Repr

/-- A line counted from one and a column counted from zero, in code units. -/
structure Position where
  line : Int
  column : Int
  deriving DecidableEq, Repr

structure Label where
  span : Span
  message : Text
  deriving DecidableEq, Repr

structure Record where
  code : Text
  severity : Severity
  message : Text
  /-- Name of the source file the span points into. -/
  file : Text
  span : Span
  loc : Position
  labels : List Label
  deriving DecidableEq, Repr

/-! ### Codes -/

/-- Why a parse raised a record. -/
inductive DiagnosticCode where
  /-- The grammar gave up. -/
  | fatal
  /-- The grammar reported an error and went on. -/
  | recoverable
  | dynamicImport
  /-- The grammar failed for a reason that is no error of the source. -/
  | parserFault
  deriving DecidableEq, Repr

def DiagnosticCode.name : DiagnosticCode → String
  | .fatal => "E_SYNTAX"
  | .recoverable => "E_SYNTAX_RECOVERABLE"
  | .dynamicImport => "E_DYNAMIC_IMPORT"
  | .parserFault => "E_PARSER_FAULT"

/-! ### As values -/

def Severity.name : Severity → String
  | .error => "error"
  | .warning => "warning"

def Span.toValue (s : Span) : Value :=
  .object [("lo", .number (.ofInt s.lo)), ("hi", .number (.ofInt s.hi))]

def Position.toValue (p : Position) : Value :=
  .object [("line", .number (.ofInt p.line)), ("column", .number (.ofInt p.column))]

def Label.toValue (l : Label) : Value :=
  .object [("span", l.span.toValue), ("message", .string l.message)]

/-- The record as a value, its fields in their fixed order. -/
def Record.toValue (r : Record) : Value :=
  .object [("code", .string r.code), ("severity", .string r.severity.name), ("message", .string r.message),
    ("file", .string r.file), ("span", r.span.toValue), ("loc", r.loc.toValue),
    ("labels", .array (r.labels.map Label.toValue))]

/-! ### Failures -/

/-- The value of a failed parse: the records it raised, in order of detection. -/
structure Failure where
  diagnostics : List Record
  deriving DecidableEq, Repr

namespace Failure

/-- All messages, joined with a comma. -/
def message (f : Failure) : Text := Text.join "," (f.diagnostics.map Record.message)

/-- The first message with its place. -/
def describe (f : Failure) : Text :=
  match f.diagnostics with
  | [] => "Parse failed"
  | r :: _ =>
    r.message ++ Text.ofString " at " ++ r.file ++ Text.ofString ":" ++ Text.ofInt r.loc.line ++
      Text.ofString ":" ++ Text.ofInt r.loc.column

end Failure

end EcmaModule
