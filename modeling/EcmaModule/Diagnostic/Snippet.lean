import EcmaModule.Diagnostic.Record
import EcmaModule.SourceMap.File

/-! Records for a terminal.

A record is shown with its message, its code and its place; when the source is at
hand, the line follows, and below it a caret under the column. -/
namespace EcmaModule.Snippet

def spaces (n : Nat) : Text := Text.replicate n 0x20

def heading : Severity → Text
  | .error => "Error"
  | .warning => "Warning"

/-- The line of a record and the caret below it; a caret cannot stand left of the line. -/
def excerpt? (loc : Position) (line : Text) : Option (List Text) :=
  if loc.column < 0 then none
  else
    let number := Text.ofInt loc.line
    some [[], number ++ Text.ofString " | " ++ line,
      spaces number.length ++ Text.ofString " | " ++ spaces loc.column.toNat ++ Text.ofString "^"]

/-- One record; there is no text when the caret would stand left of its line. -/
def format? (r : Record) (file : Option SourceFile) : Option Text := do
  let place := r.file ++ Text.ofString ":" ++ Text.ofInt r.loc.line ++ Text.ofString ":" ++
    Text.ofInt r.loc.column
  let head := [heading r.severity ++ Text.ofString ": " ++ r.message, Text.ofString "Code: " ++ r.code,
    Text.ofString "Location: " ++ place]
  let shown ← match file.bind fun f => f.lineText? r.loc.line with
    | none => some []
    | some line => excerpt? r.loc line
  let notes := r.labels.map fun l => Text.ofString "  note: " ++ l.message
  return Text.join "\n" (head ++ shown ++ notes)

/-- All records, an empty line between two of them. -/
def formatAll? (rs : List Record) (file : Option SourceFile) : Option Text :=
  (rs.mapM fun r => format? r file).map fun ts => Text.join "\n\n" ts

end EcmaModule.Snippet
