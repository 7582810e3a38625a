import EcmaModule.Context
import EcmaModule.Dependency
import EcmaModule.Grammar.Run

/-! Parsing a module in a context.

A parse registers its source, replays what the grammar delivers, interns the names
of the tree, and reports. Diagnostics never throw: a failed parse is an outcome that
carries the records raised during the call. A continuation gets the outcome while
the scope is still open, and whatever it throws comes out unchanged, with the scope
closed. -/
namespace EcmaModule

/-- What a parse comes to. -/
inductive Outcome where
  | ok (module : Value)
  | failed (failure : Failure)
  deriving Inhabited

namespace Engine

/-! ### Reports -/

/-- Drops a location in parentheses from the end of reversed units: digits, a colon,
digits, and the space and bracket before them. -/
def dropLocation? (reversed : Text) : Option Text :=
  match reversed with
  | 0x29 :: rest =>
    let (column, rest) := rest.span Value.isDigit
    match rest with
    | 0x3A :: rest =>
      let (line, rest) := rest.span Value.isDigit
      match rest with
      | 0x28 :: 0x20 :: rest => if column.isEmpty || line.isEmpty then none else some rest
      | _ => none
    | _ => none
  | _ => none

/-- A message without the location at its end. -/
def cutLocation (message : Text) : Text :=
  match dropLocation? message.reverse with
  | some rest => rest.reverse
  | none => message

/-- Resolves a byte offset in a file of the context. -/
def resolve (c : Context) (file : Nat) (index : Int) : Nat × Context :=
  ((c.sources.files.getD file default).byteOffset index,
    { c with sources := c.sources.modify file fun f => f.resolve index })

/-- Emits an error record at a place of a file. -/
def report (c : Context) (file : Nat) (code : DiagnosticCode) (pos : Int) (message : Text) (stop : Int) :
    Context :=
  let (lo, c) := resolve c file pos
  let (hi, c) := resolve c file stop
  let f := c.sources.files.getD file default
  { c with pipeline := c.pipeline.emit {
      code := code.name
      severity := .error
      message := message
      file := f.name
      span := ⟨lo, hi⟩
      loc := f.position pos
      labels := [] } }

/-- Stores a comment read between two indices. -/
def addComment (c : Context) (file : Nat) (isBlock : Bool) (text : Text) (start stop : Int) : Context :=
  let (lo, c) := resolve c file start
  let (hi, c) := resolve c file stop
  { c with comments := c.comments.add (some file) ⟨if isBlock then .block else .line, text, ⟨lo, hi⟩⟩ }

/-- One delivery of the grammar. -/
def deliver (file : Nat) (c : Context) : Grammar.Event → Context
  | .comment isBlock text start stop => addComment c file isBlock text start stop
  | .complaint pos message => report c file .recoverable pos message pos

/-- What the grammar threw becomes one record. -/
def reportThrown (c : Context) (file : Nat) : Grammar.Thrown → Context
  | .syntaxError message pos raisedAt =>
    let pos := pos.getD 0
    report c file .fatal pos (cutLocation message) (max pos (raisedAt.getD pos))
  | .other message => report c file .parserFault 0 (Text.ofString "Internal parser error: " ++ message) 0

/-! ### After the grammar -/

def dynamicImportMessage : Text := "Dynamic import is not enabled for this syntax configuration"

/-- The name of an identifier. -/
def identifierName? (n : Tree.Node) : Option Text :=
  if n.isKind "Identifier" then (n.get "name").text? else none

/-- One visit of the tree: a name is interned, a refused `import()` reported. It is reported at the
integer parts of its start and end; a grammar counts code units, so these are all there is. -/
def visit (file : Nat) (dynamicImport : Bool) (c : Context) (v : Tree.Visit) : Context :=
  match identifierName? v.node with
  | some name => { c with atoms := c.atoms.insert name }
  | none =>
    if v.node.isKind "ImportExpression" && !dynamicImport then
      report c file .dynamicImport v.node.start.toIndex dynamicImportMessage v.node.stop.toIndex
    else c

/-- The grammar's ending, as far as it shows in the context. -/
def conclude (file : Nat) (dynamicImport : Bool) (c : Context) : Grammar.Ending → Context
  | .tree module => (Tree.visits module).foldl (visit file dynamicImport) c
  | .thrown what => reportThrown c file what

/-- The outcome, once all records have reached the buffer. A run without a tree fails, also where it
has reported nothing. -/
def outcome (c : Context) (mark : Nat) (ending : Grammar.Ending) : Outcome :=
  match ending.module? with
  | none => .failed ⟨c.pipeline.snapshot mark⟩
  | some module =>
    if c.pipeline.hasErrors? mark = some true then .failed ⟨c.pipeline.snapshot mark⟩ else .ok module

/-- Replays a run on a registered file. -/
def replay (c : Context) (file : Nat) (dynamicImport : Bool) (run : Grammar.Run) : Outcome × Context :=
  let mark := c.pipeline.buffer.length
  let c := run.events.foldl (deliver file) c
  let c := conclude file dynamicImport c run.ending
  let c := { c with pipeline := c.pipeline.flush }
  (outcome c mark run.ending, c)

/-! ### Parsing -/

/-- Runs a body in an open scope, and closes it whether the body returns or throws. -/
def enter {ε α : Type} (body : Context → Except ε α × Context) (c : Context) : Except ε α × Context :=
  let (result, c) := body { c with atoms := c.atoms.opened }
  (result, { c with atoms := c.atoms.closed })

/-- Registers a source and replays the grammar's run on it. -/
def register (grammar : Grammar) (config : Configuration) (name source : Text) (c : Context) :
    Outcome × Context :=
  let file := c.sources.files.length
  let c := { c with sources := c.sources.newFile name source }
  replay c file config.dynamicImport (grammar config.dialect source)

/-- Parses a source and hands the outcome to a continuation, within the scope. -/
def parseThen {ε α : Type} (grammar : Grammar) (config : Configuration) (name source : Text)
    (continuation : Outcome → Context → Except ε α × Context) (c : Context) : Except ε α × Context :=
  enter (fun c => let (o, c) := register grammar config name source c; continuation o c) c

/-- Parses a source as a module of a context. -/
def parseModule (grammar : Grammar) (config : Configuration) (name source : Text) (c : Context) :
    Outcome × Context :=
  let (o, c) := register grammar config name source { c with atoms := c.atoms.opened }
  (o, { c with atoms := c.atoms.closed })

/-! ### Dependencies -/

/-- What an analysis comes to. -/
inductive Listing where
  | ok (dependencies : List Text)
  | failed (failure : Failure)
  deriving Inhabited

/-- The dependencies of a parsed module. -/
def listing (dynamic : Bool) : Outcome → Listing
  | .ok module => .ok (Dependency.collect dynamic module)
  | .failed f => .failed f

/-- The name under which a source is analysed. -/
def analysisName : Dialect → Text
  | .typescript => "dependencies.ts"
  | .javascript => "dependencies.js"

/-- Parses a source and lists its dependencies. -/
def analyze (grammar : Grammar) (config : Configuration) (dynamic : Bool) (source : Text) (c : Context) :
    Listing × Context :=
  let (o, c) := parseModule grammar config (analysisName config.dialect) source c
  (listing dynamic o, c)

/-! ### Without a context -/

/-- Parses JavaScript in a fresh context. -/
def parseJavaScript (grammar : Grammar) (source : Text) : Outcome :=
  (parseModule grammar { dialect := .javascript } "input.js" source {}).1

/-- Parses TypeScript in a fresh context. -/
def parseTypeScript (grammar : Grammar) (source : Text) : Outcome :=
  (parseModule grammar { dialect := .typescript } "input.ts" source {}).1

end Engine

end EcmaModule
