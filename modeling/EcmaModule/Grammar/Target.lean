import EcmaModule.Grammar.Goal

/-! Patterns: what can be assigned to or bound.

An expression is read first and turned into a pattern when an assignment or an arrow
shows that it is one. -/
namespace EcmaModule.Grammar.Parse

variable [Descent]

/-! ### From expressions to patterns -/

/-- Turns the node in a field into a pattern. -/
def fieldAssignable (n : Node) (key : String) (isBinding : Bool) (notes : Option NotePage := none) :
    Parse Node := do
  match n.child? key with
  | some c => return n.set key (.node (← assignable c isBinding notes))
  | none => return n

/-- A rest in an object must not be a pattern of its own. -/
def checkObjectRest (p : Node) : Parse Unit := do
  if p.is .restElement then
    if let some a := p.child? "argument" then
      if a.is .arrayPattern || a.is .objectPattern then unexpectedAt a.start

/-- Turns the elements of a list into patterns. -/
def assignableList (items : List (Option Node)) (isBinding : Bool) : Parse (List (Option Node)) :=
  items.mapM fun item => item.mapM fun n => assignable n isBinding

/-- The elements of an array, holes included. -/
def elements (n : Node) (key : String) : List (Option Node) := (n.get key).items.map Datum.node?

def objectAssignable (n : Node) (isBinding : Bool) (notes : Option NotePage) : Parse Node := do
  checkPatternNotes notes true
  let properties ← (n.children "properties").mapM fun p => do
    let p ← assignable p isBinding
    checkObjectRest p
    return p
  return (n.withKind .objectPattern).set "properties" (.nodes properties)

def arrayAssignable (n : Node) (isBinding : Bool) (notes : Option NotePage) : Parse Node := do
  checkPatternNotes notes true
  let items ← assignableList (elements n "elements") isBinding
  return (n.withKind .arrayPattern).set "elements" (.holes items)

def spreadAssignable (n : Node) (isBinding : Bool) : Parse Node := do
  let n ← fieldAssignable (n.withKind .restElement) "argument" isBinding
  if let some a := n.child? "argument" then
    if a.is .assignmentPattern then raise a.start .restDefault
  return n

def assignmentAssignable (n : Node) (isBinding : Bool) : Parse Node := do
  if n.word? "operator" != some "=" then raise ((n.child? "left").elim n.stop Node.stop) .defaultNeedsEquals
  fieldAssignable ((n.withKind .assignmentPattern).remove "operator") "left" isBinding

def propertyAssignable (n : Node) (isBinding : Bool) : Parse Node := do
  if n.word? "kind" != some "init" then raise ((n.child? "key").elim n.start Node.start) .accessorInPattern
  fieldAssignable n "value" isBinding

/-- An expression as a pattern. -/
def plainAssignable (n : Node) (isBinding : Bool) (notes : Option NotePage) : Parse Node := do
  match n.kind with
  | .identifier =>
    if (← get).inAsync && n.isNamed "await" then raise n.start .awaitInAsync
    return n
  | .objectPattern => return n
  | .arrayPattern => return n
  | .assignmentPattern => return n
  | .restElement => return n
  | .objectExpression => objectAssignable n isBinding notes
  | .property => propertyAssignable n isBinding
  | .arrayExpression => arrayAssignable n isBinding notes
  | .spreadElement => spreadAssignable n isBinding
  | .assignmentExpression => assignmentAssignable n isBinding
  | .chainExpression =>
    complain n.start .chainInLeftHandSide
    return n
  | .memberExpression => if isBinding then raise n.start .assigningToRvalue else return n
  | _ => raise n.start .assigningToRvalue

/-! ### Checks -/

/-- Checks a name that is bound or assigned to, and binds it. -/
def checkName (n : Node) (binding : Binding) (clashes : Option (List String)) : Parse (Option (List String)) := do
  let name := n.name?.getD ""
  if bindReserved.contains name then
    complain n.start (if binding == .none then .strictAssignment name else .strictBinding name)
  if binding == .none then return clashes
  if binding == .lexical && name == "let" then complain n.start .letBoundLexically
  if clashes.elim false fun names => names.contains name then complain n.start .argumentNameClash
  if binding != .outside then declareName name binding n.start
  return clashes.map (name :: ·)

/-- What is wrong with a node that is bound or assigned to. -/
def notTarget {α : Type} (n : Node) (binding : Binding) : Parse α :=
  raise n.start (if binding == .none then .assigningToRvalue else .bindingRvalue)

/-- Checks a target that is no pattern. -/
def plainCheckTarget (n : Node) (binding : Binding) (clashes : Option (List String)) :
    Parse (Option (List String)) := do
  match n.kind with
  | .identifier => checkName n binding clashes
  | .chainExpression =>
    complain n.start .chainInLeftHandSide
    return clashes
  | .memberExpression =>
    if binding != .none then complain n.start .bindingMember
    return clashes
  | _ => notTarget n binding

/-- Checks each node of a list in turn. -/
def checkEach (ns : List Node) (binding : Binding) (clashes : Option (List String)) :
    Parse (Option (List String)) :=
  ns.foldlM (fun clashes n => descend (.checkInnerPattern n binding clashes)) clashes

/-- Checks a pattern or a simple target. -/
def plainCheckPattern (n : Node) (binding : Binding) (clashes : Option (List String)) :
    Parse (Option (List String)) := do
  match n.kind with
  | .objectPattern => checkEach (n.children "properties") binding clashes
  | .arrayPattern => checkEach (n.children "elements") binding clashes
  | _ => descend (.checkTarget n binding clashes)

/-- Checks the pattern in a field. -/
def checkField (n : Node) (key : String) (binding : Binding) (clashes : Option (List String)) :
    Parse (Option (List String)) :=
  match n.child? key with
  | some c => descend (.checkPattern c binding clashes)
  | none => pure clashes

/-- Checks a part of a pattern. -/
def plainCheckInner (n : Node) (binding : Binding) (clashes : Option (List String)) :
    Parse (Option (List String)) := do
  match n.kind with
  | .property =>
    match n.child? "value" with
    | some v => descend (.checkInnerPattern v binding clashes)
    | none => return clashes
  | .assignmentPattern => checkField n "left" binding clashes
  | .restElement => checkField n "argument" binding clashes
  | _ => descend (.checkPattern n binding clashes)

/-- Parameters are bound like variables; with `unique` no name comes twice. -/
def checkParameters (ns : List Node) (unique : Bool) : Parse Unit := do
  discard <| checkEach ns .variable (if unique then some [] else none)

/-! ### Exports -/

/-- The text of a name in an export. -/
def exportedText (n : Node) : Text :=
  match n.get (if n.is .identifier then "name" else "value") with
  | .value (.string t) => t
  | _ => []

/-- A name is exported once. -/
def checkExport (name : Text) (pos : Nat) : Parse Unit := do
  if (← get).exports.contains name then complain pos (.duplicateExport name)
  modify fun s => { s with exports := name :: s.exports }

/-- The names of a pattern are exported. -/
def plainCheckPatternExport (n : Node) : Parse Unit := do
  match n.kind with
  | .identifier => checkExport (exportedText n) n.start
  | .objectPattern => (n.children "properties").forM fun p => descend (.checkPatternExport p)
  | .arrayPattern => (n.children "elements").forM fun p => descend (.checkPatternExport p)
  | .property => (n.child? "value").toList.forM fun p => descend (.checkPatternExport p)
  | .assignmentPattern => (n.child? "left").toList.forM fun p => descend (.checkPatternExport p)
  | .restElement => (n.child? "argument").toList.forM fun p => descend (.checkPatternExport p)
  | _ => return

end EcmaModule.Grammar.Parse
