import EcmaModule.Grammar.Goal

/-! Names: identifiers, private names and the names of imports and exports. -/
namespace EcmaModule.Grammar.Parse

/-! ### Identifiers -/

/-- Drops the context that a keyword opened, when it turns out to be a name. After a dot
it opened none. -/
def dropKeywordContext (k : Keyword) : Parse Unit := do
  let s ← get
  let afterDot := s.reader.lastStop == s.reader.lastStart + 1 && s.input.unit s.reader.lastStart == 0x2E
  if (k == .classK || k == .functionK) && !afterDot then modify State.popContext

/-- The current token as a name; a keyword counts as one. -/
def nameNode : Parse Node := do
  let n ← startNode
  let r ← reader
  match r.kind with
  | .name => return n.set "name" (.word r.value.wordD)
  | .typeWord _ => return n.set "name" (.word r.value.wordD)
  | .keyword k =>
    dropKeywordContext k
    modifyReader fun r => { r with kind := .name }
    return n.set "name" (.word k.text)
  | _ => unexpected

/-- Notes where the name `await` first stood. -/
def noteAwaitName (pos : Nat) : Parse Unit :=
  modify fun s => if s.awaitNamePos == 0 then { s with awaitNamePos := pos } else s

/-- An identifier that may be any word. -/
def anyName : Parse Node := do
  let n ← nameNode
  next true
  finish n .identifier

/-- An identifier that is no reserved word. -/
def identifier : Parse Node := do
  let n ← nameNode
  next
  let n ← finish n .identifier
  checkUnreserved n
  if n.isNamed "await" then noteAwaitName n.start
  return n

/-! ### Private names -/

/-- Notes that a private name was used. -/
def usePrivateName (name : String) (pos : Nat) : Parse Unit := do
  match (← get).privateNames with
  | [] => raise pos (.privateUndeclared name)
  | names :: rest =>
    modify fun s => { s with privateNames := { names with used := (name, pos) :: names.used } :: rest }

def privateName : Parse Node := do
  let n ← startNode
  let r ← reader
  unless r.kind == .privateId do unexpected
  next
  let name := r.value.wordD
  let n ← finish (n.set "name" (.word name)) .privateIdentifier
  usePrivateName name n.start
  return n

/-! ### Literals -/

/-- A literal of the current token. -/
def literal (value : Value) : Parse Node := do
  let r ← reader
  let raw := (← source).slice r.start r.stop
  let n := ((← startNode).set "value" (.value value)).set "raw" (.text raw)
  let n :=
    match r.value with
    | .bigint i => n.set "bigint" (.text (Text.ofInt i))
    | _ => n
  next
  finish n .literal

/-- The value of the current token, which is a number or a string. -/
def tokenValue : Parse Value := do
  match ← value with
  | .number x => return .number x
  | .string t => return .string t
  | .bigint i => return .bigint i
  | .pattern p f => return .regexp p f
  | .word w => return .string w
  | .none => return .undefined

/-- A surrogate without its partner. -/
def hasLoneSurrogate (t : Text) : Bool := t.toString?.isNone

/-- The name of an import or export: a word or a string. -/
def moduleName : Parse Node := do
  if ← at_ .string then
    let v ← tokenValue
    let n ← literal v
    if v.text?.elim false hasLoneSurrogate then raise n.start .loneSurrogateName
    return n
  else anyName

end EcmaModule.Grammar.Parse
