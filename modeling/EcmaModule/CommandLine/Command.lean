import EcmaModule.CommandLine.Options
import EcmaModule.Diagnostic.Snippet
import EcmaModule.Operation

/-! The command, as a function of its arguments, its environment and a way to read
files. It answers with an exit status and the text of both streams. -/
namespace EcmaModule.CommandLine

open Utf8 (Bytes)

/-- Why a file cannot be read. -/
inductive ReadFault where
  | missing
  | directory
  | denied
  deriving DecidableEq, Repr

def ReadFault.message (name : Text) : ReadFault → Text
  | .missing => Text.ofString "ENOENT: no such file or directory, open '" ++ name ++ Text.ofString "'"
  | .directory => "EISDIR: illegal operation on a directory, read"
  | .denied => Text.ofString "EACCES: permission denied, open '" ++ name ++ Text.ofString "'"

/-- What a run of the command leaves. -/
structure Result where
  status : Nat
  stdout : Text := []
  stderr : Text := []
  deriving DecidableEq, Repr

def line (t : Text) : Text := t ++ [0x0A]

/-- Two spaces a level. -/
def indent : Text := "  "

/-- The counts of a context. -/
def statistics (c : Context) : Text :=
  line "=== Parse Context ===" ++
    line (Text.ofString "Files: " ++ Text.ofNat c.sources.files.length) ++
    line (Text.ofString "Comments: " ++ Text.ofNat c.comments.size) ++
    line (Text.ofString "Interned identifiers: " ++ Text.ofNat c.atoms.count) ++
    line (Text.ofString "Diagnostics: " ++ Text.ofNat c.pipeline.buffer.length)

/-- An error that nothing handles ends a run with its name and message. The trace that an engine
shows around them is left out. -/
def crashed (p : Problem) (stats : Text) : Result :=
  { status := 1, stderr := stats ++ line (Text.ofString p.name ++ Text.ofString ": " ++ p.message) }

/-- A failure, as JSON on the output or rendered on the error stream. A caret that would stand left of
its line ends the run instead, behind the empty line that comes first. -/
def failed (o : Options) (c : Context) (f : Failure) (stats : Text) : Result :=
  if o.json then
    { status := 1
      stdout := line (Json.print indent (.array (f.diagnostics.map Record.toValue)))
      stderr := stats }
  else
    let file := c.sources.files.getLast?
    match Snippet.formatAll? f.diagnostics file with
    | some shown => { status := 1, stderr := stats ++ line [] ++ line shown ++ line [] }
    | none =>
      let misplaced := f.diagnostics.find? fun r => (Snippet.format? r file).isNone
      crashed (.invalidCount ((misplaced.map fun r => r.loc.column).getD 0)) (stats ++ line [])

/-- Runs on a source that has been read. -/
def runSource (grammar : Grammar) (o : Options) (name source : Text) : Result :=
  if o.deps then
    let (listing, c) := Engine.analyze grammar o.configuration o.dynamic source {}
    let stats := if o.verbose then statistics c else []
    match listing with
    | .failed f => failed o c f stats
    | .ok dependencies =>
      { status := 0
        stdout := line (Json.print indent (.array (dependencies.map Value.string)))
        stderr := stats }
  else
    let (outcome, c) := Engine.parseModule grammar o.configuration name source {}
    let stats := if o.verbose then statistics c else []
    match outcome with
    | .failed f => failed o c f stats
    | .ok module =>
      match Operation.serialize module indent with
      | .error p => crashed p stats
      | .ok json => { status := 0, stdout := line (json.getD "undefined"), stderr := stats }

/-- The file that a run reads, when its arguments ask for one. -/
def fileToRead? (args : List Text) (setting : Option Text) : Option Text :=
  match parseArguments args setting with
  | .error _ => none
  | .ok o => if o.help then none else o.inputFile

/-- Runs the command. -/
def run (grammar : Grammar) (read : Text → Except ReadFault Bytes) (args : List Text)
    (setting : Option Text) : Result :=
  match parseArguments args setting with
  | .error p => { status := 1, stderr := line (Text.ofString "Error: " ++ p.message) ++ line usageText }
  | .ok o =>
    match o.help, o.inputFile with
    | false, some name =>
      match read name with
      | .error e => { status := 1, stderr := line (Text.ofString "Error reading file: " ++ e.message name) }
      | .ok bytes => runSource grammar o name (Utf8.decodeLossy bytes)
    | _, _ => { status := 0, stderr := line usageText }

end EcmaModule.CommandLine
