import EcmaModule.Grammar.Goal

/-! Reading that may be taken back.

Types make some sources readable in several ways. A reading is then tried: if it fails,
the scanner goes back to where it was, and so do the comments it delivered. What it
complained about without failing stays, and so do the names it declared. -/
namespace EcmaModule.Grammar

namespace Parse

/-! ### Going back -/

/-- The event is a comment. -/
def isCommentEvent : Event → Bool
  | .comment .. => true
  | .complaint .. => false

/-- The events from `old` on without the comments delivered since; latest first. -/
def dropComments (old events : List Event) : List Event :=
  ((events.take (events.length - old.length)).filter fun e => !isCommentEvent e) ++ old

/-- Takes the scanner back to where it was in `old`. -/
def goBack (old : State) : Parse Unit :=
  modify fun s => { s with
    reader := old.reader, notes := s.notes.take old.notes.size, events := dropComments old.events s.events }

/-- Takes the scanner back, but leaves the brackets opened and closed since. -/
def goBackWithin (old : State) : Parse Unit := do
  let contexts := (← reader).contexts
  goBack old
  modify fun s => s.withContexts contexts

/-! ### Attempts -/

/-- How an attempt ended. -/
inductive Attempt (α : Type) where
  | done (a : α)
  /-- It met an error. -/
  | failed (why : Fault)
  /-- It gave itself up. -/
  | givenUp

/-- Gives an attempt up. -/
def giveUp {α : Type} : Parse α := throw .abandoned

/-- Tries a reading. -/
def attempt {α : Type} (step : Parse α) : Parse (Attempt α) := do
  let old ← get
  try
    return .done (← step)
  catch fault =>
    goBack old
    match fault with
    | .complaint .. => return .failed fault
    | .abandoned => return .givenUp
    | _ => throw fault

/-- What an attempt read, if it did not fail. -/
def attempt? {α : Type} (step : Parse α) : Parse (Option α) := do
  match ← attempt step with
  | .done a => return some a
  | _ => return none

/-- Goes on with a reading that applies, and back if it does not. -/
def perhaps {α : Type} (step : Parse (Option α)) : Parse (Option α) := do
  let old ← get
  match ← step with
  | some a => return some a
  | none =>
    goBackWithin old
    return none

/-- Goes on past what the test reads if it holds. -/
def perhapsIf (test : Parse Bool) : Parse Bool :=
  return (← perhaps do return if ← test then some () else none).isSome

/-- The answer of a test that reads ahead. -/
def lookingAhead {α : Type} (test : Parse α) : Parse α := do
  let old ← get
  let answer ← test
  goBackWithin old
  return answer

/-- Whether a reading fails. -/
def succeeds {α : Type} (step : Parse α) : Parse Bool := do
  try
    discard step
    return true
  catch fault =>
    match fault with
    | .exhausted => throw fault
    | _ => return false

/-! ### Looking at later tokens -/

/-- The reader after the next tokens, which are read without any effect. -/
def ahead (count : Nat := 1) : Parse Reader := do
  let old ← reader
  modify fun s => s.withContexts [s.context]
  modifyTypes fun t => { t with lookingAhead := true }
  for _ in [0 : count] do nextToken
  modifyTypes fun t => { t with lookingAhead := false }
  let result ← reader
  modifyReader fun _ => old
  return result

end Parse

namespace Reader

/-- The token is this word of a typed source, written without escapes. -/
def isTypeWord (r : Reader) (w : TypeWord) : Bool := r.kind == .typeWord w && !r.escaped

/-- The token is this plain name, written without escapes. -/
def isWord (r : Reader) (w : String) : Bool := r.kind == .name && r.value.isWord w && !r.escaped

end Reader

namespace Parse

/-- The current token is this word of a typed source, written without escapes. -/
def atTypeWord (w : TypeWord) : Parse Bool := return (← reader).isTypeWord w

def eatTypeWord (w : TypeWord) : Parse Bool := do
  if ← atTypeWord w then
    next
    return true
  else return false

def expectTypeWord (w : TypeWord) : Parse Unit := do unless ← eatTypeWord w do unexpected

/-- The current token can be a name. -/
def atIdentifier : Parse Bool := return (← kind).isIdentifier

/-- The current token opens type arguments. -/
def atLess : Parse Bool := do
  let r ← reader
  return r.kind == .relational && r.value.isWord "<"

/-- The current token closes type arguments. -/
def atGreater : Parse Bool := do
  let r ← reader
  return r.kind == .relational && r.value.isWord ">"

/-- A line, or the source, ends after the current token. -/
def newlineAfter : Parse Bool := do
  let s ← get
  let next := s.input.nextToken s.reader.stop
  return s.input.size ≤ next || s.input.hasNewline s.reader.stop next

/-- A semicolon, which is eaten, or a place where one can be left out. -/
def endsStatement : Parse Bool := eat .semi <||> canEndStatement

/-! ### Surroundings -/

/-- Runs a step in changed surroundings, which are put back whether it fails or not. -/
def within {α : Type} (enter : TypeState → TypeState) (leave : TypeState → TypeState → TypeState)
    (step : Parse α) : Parse α := do
  let old ← types
  modifyTypes enter
  try
    let result ← step
    modifyTypes (leave old)
    return result
  catch fault =>
    modifyTypes (leave old)
    throw fault

/-- Angle brackets are read one by one. -/
def inType {α : Type} (step : Parse α) : Parse α :=
  within (fun t => { t with inType := true }) (fun old t => { t with inType := old.inType }) step

/-- Declarations only announce what stands elsewhere. -/
def inAmbient {α : Type} (step : Parse α) : Parse α :=
  within (fun t => { t with ambient := true }) (fun old t => { t with ambient := old.ambient }) step

/-- Whether `extends` after a type starts a conditional type. -/
def withConditional {α : Type} (allowed : Bool) (step : Parse α) : Parse α :=
  within (fun t => { t with noConditional := !allowed })
    (fun old t => { t with noConditional := old.noConditional }) step

def inClass {α : Type} (isAbstract : Bool) (step : Parse α) : Parse α :=
  within (fun t => { t with inAbstractClass := isAbstract })
    (fun old t => { t with inAbstractClass := old.inAbstractClass }) step

/-- Runs a step where what is read may, or cannot, turn out to be parameters. -/
def withArrowParameters {α : Type} (may : Bool) (step : Parse α) : Parse α := do
  let old := (← types).inArrowParameters
  modifyTypes fun t => { t with inArrowParameters := may }
  let result ← step
  modifyTypes fun t => { t with inArrowParameters := old }
  return result

end Parse

end EcmaModule.Grammar
