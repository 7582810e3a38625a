import EcmaModule.Grammar.Scope

/-! What a rule can ask to be read.

The rules of the grammar refer to each other in circles. A rule names what it needs as
a `Goal` and reaches it by `descend`; the grammar closes the circle, one level of depth
at a time. -/
namespace EcmaModule.Grammar

/-- Where an expression stands in the head of a `for`, if it does: there `in` is no
operator, and after `for await` the name `of` starts no arrow function. -/
inductive ForHead where
  | none
  | plain
  | await
  deriving DecidableEq, Repr

/-- What becomes of the name of a function or a class. -/
inductive Naming where
  | expression
  | declaration
  /-- A declaration that can go without a name. -/
  | optional
  deriving DecidableEq, Repr

/-- Something to be read, or to be done with what was read. -/
inductive Goal : Type → Type where
  | statement (nested topLevel : Bool) : Goal Node
  | expression (head : ForHead) (notes : Option NotePage) : Goal Node
  /-- An expression without commas; `isItem` for one between parentheses. -/
  | assign (head : ForHead) (notes : Option NotePage) (isItem : Bool) : Goal Node
  | unary (notes : Option NotePage) (sawUnary incDec : Bool) (head : ForHead) : Goal Node
  /-- The operators after `left` that bind more tightly than `precedence`. -/
  | binary (left : Node) (start : Nat) (loc : Loc) (precedence : Nat) (head : ForHead) : Goal Node
  | leftHand (notes : Option NotePage) (head : ForHead) : Goal Node
  | subscripts (base : Node) (start : Nat) (loc : Loc) (noCalls : Bool) (head : ForHead) : Goal Node
  | atom (notes : Option NotePage) (head : ForHead) (forNew : Bool) : Goal Node
  | bindingAtom : Goal Node
  /-- One of a list of patterns, with its default. `modifiers` says whether words like
  `private` may stand before it; without, they are names. -/
  | bindingElement (modifiers : Option Bool) : Goal Node
  /-- A rest at the end of a list of patterns. -/
  | bindingRest : Goal Node
  /-- A spread among arguments or elements, at its dots. -/
  | spread (notes : Option NotePage) : Goal Node
  /-- A function after its keyword; `hanging` for one below another statement. -/
  | function (n : Node) (naming : Naming) (hanging isAsync : Bool) : Goal Node
  /-- A method from its parameters on; `superCall` for the constructor of a derived class. -/
  | method (generator isAsync superCall : Bool) : Goal Node
  /-- An arrow function after its arrow, with what became its parameters. -/
  | arrow (n : Node) (items : List (Option Node)) (isAsync : Bool) (head : ForHead) : Goal Node
  /-- A class at its keyword. -/
  | classNode (n : Node) (naming : Naming) : Goal Node
  | object (isPattern : Bool) (notes : Option NotePage) : Goal Node
  /-- An expression turned into a pattern. -/
  | assignable (n : Node) (isBinding : Bool) (notes : Option NotePage) : Goal Node
  /-- Checks and binds the names of a pattern; `clashes` are those bound before. -/
  | checkPattern (n : Node) (binding : Binding) (clashes : Option (List String)) : Goal (Option (List String))
  | checkInnerPattern (n : Node) (binding : Binding) (clashes : Option (List String)) : Goal (Option (List String))
  /-- Checks and binds a target that is no pattern. -/
  | checkTarget (n : Node) (binding : Binding) (clashes : Option (List String)) : Goal (Option (List String))
  | checkPatternExport (n : Node) : Goal Unit
  | type : Goal Node
  /-- A type with the operators before it. -/
  | typeOperand : Goal Node

/-- How a rule reaches the rules it is built from. -/
class Descent where
  descend : {α : Type} → Goal α → Parse α

export Descent (descend)

namespace Parse

variable [Descent]

def statement (nested : Bool := false) (topLevel : Bool := false) : Parse Node :=
  descend (.statement nested topLevel)

def expression (head : ForHead := .none) (notes : Option NotePage := none) : Parse Node :=
  descend (.expression head notes)

def assign (head : ForHead := .none) (notes : Option NotePage := none) (isItem : Bool := false) : Parse Node :=
  descend (.assign head notes isItem)

def unary (notes : Option NotePage) (sawUnary incDec : Bool) (head : ForHead) : Parse Node :=
  descend (.unary notes sawUnary incDec head)

def leftHand (notes : Option NotePage := none) (head : ForHead := .none) : Parse Node :=
  descend (.leftHand notes head)

def atom (notes : Option NotePage := none) (head : ForHead := .none) (forNew : Bool := false) : Parse Node :=
  descend (.atom notes head forNew)

def bindingAtom : Parse Node := descend .bindingAtom

def function (n : Node) (naming : Naming) (hanging isAsync : Bool) : Parse Node :=
  descend (.function n naming hanging isAsync)

def method (generator isAsync : Bool) (superCall : Bool := false) : Parse Node :=
  descend (.method generator isAsync superCall)

def arrow (n : Node) (items : List (Option Node)) (isAsync : Bool) (head : ForHead) : Parse Node :=
  descend (.arrow n items isAsync head)

def classNode (n : Node) (naming : Naming) : Parse Node := descend (.classNode n naming)

def assignable (n : Node) (isBinding : Bool) (notes : Option NotePage := none) : Parse Node :=
  descend (.assignable n isBinding notes)

/-- Checks and binds the names of a pattern. -/
def checkPattern (n : Node) (binding : Binding := .none) : Parse Unit :=
  discard <| descend (.checkPattern n binding none)

/-- Checks and binds a target that is no pattern. -/
def checkSimple (n : Node) (binding : Binding := .none) : Parse Unit :=
  discard <| descend (.checkTarget n binding none)

/-! ### Notes -/

/-- Runs a step with a fresh page of notes. -/
def withNotes {α : Type} (step : NotePage → Parse α) : Parse α := do
  let page ← modifyGet fun s => (s.notes.size, { s with notes := s.notes.push {} })
  let result ← step page
  modify fun s => { s with notes := s.notes.take page }
  return result

def notesOn (p : NotePage) : Parse PatternNotes := return (← get).notes.getD p {}

/-- The notes on a page; none if there is no page. -/
def notesOn? (p : Option NotePage) : Parse PatternNotes := p.elim (pure {}) notesOn

def modifyNotes (p : NotePage) (change : PatternNotes → PatternNotes) : Parse Unit :=
  modify fun s => { s with notes := s.notes.modify p change }

/-- Changes the notes if there is a page for them. -/
def note (p : Option NotePage) (change : PatternNotes → PatternNotes) : Parse Unit :=
  p.elim (pure ()) fun p => modifyNotes p change

/-- Complaints on what is wrong in a pattern, assigned to or bound. -/
def checkPatternNotes (p : Option NotePage) (isAssign : Bool) : Parse Unit := do
  let n ← notesOn? p
  if let some pos := n.trailingComma then complain pos .commaAfterRest
  let parenthesized := if isAssign then n.parenthesizedAssign else n.parenthesizedBind
  if let some pos := parenthesized then
    complain pos (if isAssign then .assigningToRvalue else .parenthesizedPattern)

/-- Some note is an error unless the expression turns out to be a pattern. -/
def hasExpressionErrors (p : Option NotePage) : Parse Bool := do
  let n ← notesOn? p
  return n.shorthandAssign.isSome || n.repeatedProto.isSome

/-- Errors on what is wrong unless the expression is a pattern. -/
def raiseExpressionErrors (p : Option NotePage) : Parse Unit := do
  let n ← notesOn? p
  if let some pos := n.shorthandAssign then raise pos .shorthandOutsidePattern
  if let some pos := n.repeatedProto then complain pos .repeatedProto

/-! ### Defaults of parameters -/

/-- Parameters hold neither `yield` nor `await`. -/
def checkDefaults : Parse Unit := do
  let s ← get
  if s.yieldPos != 0 && (s.awaitPos == 0 || s.yieldPos < s.awaitPos) then raise s.yieldPos .yieldAsDefault
  if s.awaitPos != 0 then raise s.awaitPos .awaitAsDefault

/-- Forgets where `yield` and `await` stood. -/
def clearSuspensions : Parse Unit := modify fun s => { s with yieldPos := 0, awaitPos := 0, awaitNamePos := 0 }

/-- Runs a step with its own record of where `yield` and `await` stood. -/
def withOwnSuspensions {α : Type} (step : Parse α) : Parse α := do
  let yieldPos := (← get).yieldPos
  let awaitPos := (← get).awaitPos
  let awaitNamePos := (← get).awaitNamePos
  clearSuspensions
  let result ← step
  modify fun s => { s with yieldPos := yieldPos, awaitPos := awaitPos, awaitNamePos := awaitNamePos }
  return result

end Parse

end EcmaModule.Grammar
