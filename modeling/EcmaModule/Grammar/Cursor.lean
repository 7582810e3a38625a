import EcmaModule.Grammar.Token.Advance

/-! Walking over tokens and opening nodes at them. -/
namespace EcmaModule.Grammar.Parse

/-! ### Tests -/

/-- The current token is of this kind. -/
def at_ (k : TokenKind) : Parse Bool := return (← kind) == k

def atKeyword (k : Keyword) : Parse Bool := at_ (.keyword k)

/-- The current token is this plain name, written without escapes. -/
def atWord (w : String) : Parse Bool := do
  let r ← reader
  return r.kind == .name && r.value.isWord w && !r.escaped

/-- A line ends before the current token. -/
def newlineBefore : Parse Bool := return (← get).newlineBefore

/-- A statement may end here without a semicolon. -/
def canEndStatement : Parse Bool := do
  let k ← kind
  return k == .eof || k == .braceR || (← newlineBefore)

/-! ### Moves -/

/-- Goes on if the current token is of this kind, and says whether it was. -/
def eat (k : TokenKind) : Parse Bool := do
  if ← at_ k then
    next
    return true
  else return false

/-- Goes on if `c` holds and the current token is of this kind. -/
def eatIf (c : Bool) (k : TokenKind) : Parse Bool := if c then eat k else pure false

def eatKeyword (k : Keyword) : Parse Bool := eat (.keyword k)

def eatWord (w : String) : Parse Bool := do
  if ← atWord w then
    next
    return true
  else return false

/-- Goes on if `c` holds and the current token is this plain name. -/
def eatWordIf (c : Bool) (w : String) : Parse Bool := if c then eatWord w else pure false

def expect (k : TokenKind) : Parse Unit := do unless ← eat k do unexpected

def expectWord (w : String) : Parse Unit := do unless ← eatWord w do unexpected

/-- The end of a statement: a semicolon, or a place where one can be left out. -/
def semicolon : Parse Unit := do
  unless ← eat .semi do unless ← canEndStatement do unexpected

/-- Goes on past a bracket that closes a list after a comma. -/
def eatAfterComma (close : TokenKind) : Parse Bool := eat close

/-! ### Nodes -/

/-- A node that starts at a position; its kind and end come when it is finished. -/
def nodeAt (start : Nat) (loc : Loc) : Node := .mk .unfinished ⟨start, loc, start, loc⟩ []

/-- A node that starts at the current token. -/
def startNode : Parse Node := do
  let r ← reader
  return nodeAt r.start r.startLoc

/-- A node that starts where the token before the current one does. -/
def startNodeAtLast : Parse Node := do
  let r ← reader
  return nodeAt r.lastStart r.lastStartLoc

/-- A node that starts where another does. -/
def nodeAtStartOf (n : Node) : Node := nodeAt n.start n.startLoc

/-- Gives a node its kind; it ends where the token before the current one does. A node
that has a kind keeps it, and its end. -/
def finish (n : Node) (k : NodeKind) : Parse Node := do
  let r ← reader
  return if n.is .unfinished then (n.withKind k).endingAt r.lastStop r.lastStopLoc else n

/-! ### Surroundings -/

/-- The brackets the current token opened are of this context. -/
def overrideContext (c : TokenContext) : Parse Unit :=
  modify fun s => s.withContexts (c :: s.reader.contexts.drop 1)

def setExprAllowed (allowed : Bool) : Parse Unit := modify fun s => s.allowing allowed

/-- The code unit of the next token, comments skipped, without reading it. -/
def unitAfter : Parse Nat := do
  let s ← get
  return s.input.unit (s.input.nextToken s.reader.pos)

/-! ### Saving and restoring -/

/-- Runs a step and then puts back a part of the state. -/
def restoring {α β : Type} (part : State → β) (putBack : β → State → State) (step : Parse α) : Parse α := do
  let old := part (← get)
  let result ← step
  modify (putBack old)
  return result

end EcmaModule.Grammar.Parse
