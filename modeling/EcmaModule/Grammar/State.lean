import EcmaModule.Grammar.Complaint
import EcmaModule.Grammar.Node
import EcmaModule.Grammar.Run
import EcmaModule.Grammar.Source
import EcmaModule.Grammar.Token

/-! What a grammar knows while it reads.

A `Reader` is the place of the scanner and the token it stands at; looking ahead and
giving up an attempt restore it. Everything else — scopes, labels, what was delivered
— is kept across an attempt. A reading that fails ends in a `Fault`. -/
namespace EcmaModule.Grammar

/-! ### Faults -/

/-- Why a reading cannot go on. -/
inductive Fault where
  /-- A syntax error, the position it points at if there is one, and how far the
  scanner had come if the scanner raised it. -/
  | complaint (c : Complaint) (pos raisedAt : Option Nat)
  /-- An escape in a template that is no error if the template has a tag. -/
  | templateEscape
  /-- The grammar itself failed, with this message. -/
  | broken (message : String)
  /-- An attempt gave itself up. -/
  | abandoned
  /-- The depth allowed for the length of the source was used up. -/
  | exhausted
  deriving DecidableEq, Repr

/-! ### Reader -/

structure Reader where
  /-- The unit the scanner stands at. -/
  pos : Nat := 0
  line : Nat := 1
  /-- The first unit of the line. -/
  lineStart : Nat := 0
  kind : TokenKind := .eof
  value : TokenValue := .none
  start : Nat := 0
  stop : Nat := 0
  startLoc : Loc := ⟨1, 0⟩
  stopLoc : Loc := ⟨1, 0⟩
  /-- The token before this one. -/
  lastStart : Nat := 0
  lastStop : Nat := 0
  lastStartLoc : Loc := ⟨1, 0⟩
  lastStopLoc : Loc := ⟨1, 0⟩
  /-- What the open brackets and functions are, innermost first. -/
  contexts : List TokenContext := [.blockStatement]
  /-- The last word was written with an escape. -/
  escaped : Bool := false

/-! ### Scopes -/

/-- What a scope allows, and how far names reach from it. -/
structure ScopeKind where
  top : Bool := false
  function : Bool := false
  async : Bool := false
  generator : Bool := false
  arrow : Bool := false
  simpleCatch : Bool := false
  method : Bool := false
  derivedConstructor : Bool := false
  staticBlock : Bool := false
  fieldInit : Bool := false
  /-- The body of a namespace. -/
  space : Bool := false
  deriving DecidableEq, Repr, Inhabited

namespace ScopeKind

/-- Variables are declared here and no further out. -/
def holdsVariables (k : ScopeKind) : Bool := k.top || k.function || k.staticBlock

/-- The scope a function or a class member opens, or the module's own. -/
def isBody (k : ScopeKind) : Bool := k.holdsVariables || k.fieldInit

/-- The scope decides what `this` is. -/
def bindsThis (k : ScopeKind) : Bool := k.isBody && !k.arrow

end ScopeKind

/-- The names declared in a scope. -/
structure Scope where
  kind : ScopeKind := {}
  hoisted : List String := []
  /-- In order of declaration, latest first. -/
  lexical : List String := []
  functions : List String := []
  /-- Names that can be exported although nothing of that name exists at run time. -/
  types : List String := []
  deriving Inhabited

/-- How a name is bound. -/
inductive Binding where
  /-- Not bound but assigned to. -/
  | none
  | variable
  | lexical
  | function
  | catchParameter
  /-- The name of a function inside it: checked, not declared. -/
  | outside
  | typeAlias
  | interface
  | space
  deriving DecidableEq, Repr, Inhabited

inductive LabelKind where
  | loop
  | switch
  | other
  deriving DecidableEq, Repr

structure Label where
  name : Option String
  kind : LabelKind
  /-- The start of the statement that carries the label. -/
  statement : Nat := 0

/-- How a private name was declared: one accessor of a side, or for good. -/
inductive PrivateKind where
  | getter (isStatic : Bool)
  | setter (isStatic : Bool)
  | whole
  deriving DecidableEq, Repr

/-- The private names of a class body, declared and used. -/
structure PrivateNames where
  declared : List (String × PrivateKind) := []
  /-- Uses with their positions, latest first. -/
  used : List (String × Nat) := []

/-! ### Notes on possible patterns -/

/-- Places in an expression that are right or wrong depending on whether it turns out
to be a pattern. -/
structure PatternNotes where
  shorthandAssign : Option Nat := none
  trailingComma : Option Nat := none
  parenthesizedAssign : Option Nat := none
  parenthesizedBind : Option Nat := none
  repeatedProto : Option Nat := none
  deriving Inhabited

/-- A page of notes. -/
abbrev NotePage := Nat

/-! ### State -/

/-- What only the reading of types needs. -/
structure TypeState where
  /-- The scanner reads ahead without effect. -/
  lookingAhead : Bool := false
  /-- Angle brackets are single. -/
  inType : Bool := false
  ambient : Bool := false
  inAbstractClass : Bool := false
  /-- A question mark after `extends` does not start a conditional type. -/
  noConditional : Bool := false
  inArrowParameters : Bool := false
  arrowReturnType : Option Node := none
  asyncReturnType : Option Node := none
  /-- Decorators waiting for their owner, innermost class first. -/
  decorators : List (List Node) := [[]]
  /-- The word `type` of an import or export declaration, `value` or `typeof`. -/
  outerKind : Option String := none

structure State where
  dialect : Dialect
  input : Source
  reader : Reader := {}
  /-- A slash starts a regular expression here. -/
  exprAllowed : Bool := true
  /-- Positions of the first `yield` and `await` in the parameters being read; zero for none. -/
  yieldPos : Nat := 0
  awaitPos : Nat := 0
  awaitNamePos : Nat := 0
  /-- Innermost first. -/
  labels : List Label := []
  /-- Innermost first. -/
  scopes : List Scope := [{ kind := { top := true } }]
  /-- Exported names without a declaration so far, with the position to report. -/
  undefinedExports : List (String × Nat) := []
  exports : List Text := []
  /-- Innermost first. -/
  privateNames : List PrivateNames := []
  /-- Where an arrow function may start. -/
  arrowAt : Option Nat := none
  arrowInForAwait : Bool := false
  inTemplate : Bool := false
  notes : Array PatternNotes := #[]
  types : TypeState := {}
  /-- What was delivered, latest first. -/
  events : List Event := []

/-- A reading step. A step that fails leaves the state as it had become. -/
abbrev Parse := EStateM Fault State

namespace Parse

def reader : Parse Reader := return (← get).reader

def kind : Parse TokenKind := return (← get).reader.kind

def value : Parse TokenValue := return (← get).reader.value

def start : Parse Nat := return (← get).reader.start

def startLoc : Parse Loc := return (← get).reader.startLoc

/-- The end of the token before this one. -/
def lastStop : Parse Nat := return (← get).reader.lastStop

def lastStart : Parse Nat := return (← get).reader.lastStart

def isTyped : Parse Bool := return (← get).dialect == .typescript

/-- How many steps a loop over the source can take. -/
def steps : Parse Nat := return (← get).input.size + 2

def types : Parse TypeState := return (← get).types

/-- Line and column of the scanner. -/
def here : Parse Loc := do
  let r ← reader
  return ⟨r.line, r.pos - r.lineStart⟩

/-- The source. -/
def source : Parse Source := return (← get).input

/-- The unit where the scanner stands, or one further on. -/
def peek (ahead : Nat := 0) : Parse Nat := do
  let s ← get
  return s.input.unit (s.reader.pos + ahead)

/-- The code point where the scanner stands. -/
def peekPoint : Parse Nat := do
  let s ← get
  return s.input.point s.reader.pos

/-- The place of the scanner. -/
def pos : Parse Nat := return (← get).reader.pos

def modifyReader (change : Reader → Reader) : Parse Unit :=
  modify fun s => { s with reader := change s.reader }

/-- Moves the scanner. -/
def moveTo (pos : Nat) : Parse Unit := modifyReader fun r => { r with pos := pos }

def advance (units : Nat := 1) : Parse Unit := modifyReader fun r => { r with pos := r.pos + units }

/-- A new line starts where the scanner stands. -/
def startLine : Parse Unit := modifyReader fun r => { r with line := r.line + 1, lineStart := r.pos }

def modifyTypes (change : TypeState → TypeState) : Parse Unit :=
  modify fun s => { s with types := change s.types }

/-- The grammar fails, with a message of its own. -/
def broken {α : Type} (message : String) : Parse α := throw (.broken message)

/-- An error that cannot be gone on from. -/
def raise {α : Type} (pos : Nat) (c : Complaint) : Parse α := do
  throw (.complaint c (some pos) (some (← reader).pos))

/-- An error that can be gone on from. -/
def complain (pos : Nat) (c : Complaint) : Parse Unit :=
  modify fun s => { s with events := .complaint pos c.message :: s.events }

/-- The token cannot stand here; the error is at `pos`. -/
def unexpectedAt {α : Type} (pos : Nat) : Parse α := raise pos .unexpectedToken

/-- The token cannot stand here. -/
def unexpected {α : Type} : Parse α := do unexpectedAt (← start)

end Parse

end EcmaModule.Grammar
