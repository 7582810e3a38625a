import EcmaModule.Grammar.Directive
import EcmaModule.Grammar.Rule.Name
import EcmaModule.Grammar.Target

/-! Functions, methods and arrow functions, with their parameters. -/
namespace EcmaModule.Grammar.Parse

variable [Descent]

/-! ### Parameters -/

/-- A rest in a pattern. -/
def restBinding : Parse Node := do
  let n ← startNode
  next
  finish (n.set "argument" (.node (← bindingAtom))) .restElement

/-- A pattern with the default that may follow it. -/
def withDefault (start : Nat) (loc : Loc) (left : Node) : Parse Node := do
  unless ← eat .eq do return left
  finish (((nodeAt start loc).set "left" (.node left)).set "right" (.node (← assign))) .assignmentPattern

/-- A pattern and the default that may follow it. -/
def bindingWithDefault : Parse Node := do
  let r ← reader
  let left ← bindingAtom
  withDefault r.start r.startLoc left

/-- A list of patterns up to a bracket, which is eaten. -/
def bindingList (close : TokenKind) (holes : Bool) (modifiers : Option Bool := none) :
    Parse (List (Option Node)) := do
  let mut items : Array (Option Node) := #[]
  for _ in [0 : ← steps] do
    if ← eat close then return items.toList
    unless items.isEmpty do expect .comma
    if holes && (← at_ .comma) then items := items.push none
    else if ← eatAfterComma close then return items.toList
    else if ← at_ .ellipsis then
      items := items.push (← descend .bindingRest)
      if ← at_ .comma then complain (← start) .commaAfterRest
      expect close
      return items.toList
    else items := items.push (← descend (.bindingElement modifiers))
  throw .exhausted

/-- A name or a pattern of brackets or braces. -/
def plainBindingAtom : Parse Node := do
  match ← kind with
  | .bracketL =>
    let n ← startNode
    next
    finish (n.set "elements" (.holes (← bindingList .bracketR true))) .arrayPattern
  | .braceL => descend (.object true none)
  | _ => identifier

/-! ### Bodies -/

/-- The first fields of a function. -/
def initFunction (n : Node) (generator async : Bool) : Node :=
  (((n.set "id" .null).set "expression" (.bool false)).set "generator" (.bool generator)).set "async" (.bool async)

/-- Statements up to the closing brace, which is the current token then. -/
def statementsToBrace : Parse (List Node) := do
  let mut items : Array Node := #[]
  for _ in [0 : ← steps] do
    if ← at_ .braceR then return items.toList
    items := items.push (← statement)
  throw .exhausted

/-- A block, perhaps with a scope of its own. -/
def block (ownScope : Bool) (n : Node) : Parse Node := do
  expect .braceL
  if ownScope then enterScope {}
  let items ← statementsToBrace
  next
  if ownScope then exitScope
  finish (n.set "body" (.nodes items)) .blockStatement

/-- Every parameter is a plain name. -/
def simpleParameters (n : Node) : Bool := (n.children "params").all fun p => p.is .identifier

/-- Runs a step with no label in reach. -/
def withoutLabels {α : Type} (step : Parse α) : Parse α :=
  restoring State.labels (fun old s => { s with labels := old }) do
    modify fun s => { s with labels := [] }
    step

/-- The body of a function in braces. Its parameters and its name are checked first. -/
def blockBody (n : Node) : Parse Node := do
  let s ← source
  unless simpleParameters n do
    if s.asksForStrict s.size (← reader).stop then complain n.start .useStrictWithPatterns
  withoutLabels do
    checkParameters (n.children "params") true
    if let some id := n.child? "id" then checkSimple id .outside
    let body ← block false (← startNode)
    let body := body.set "body" (.nodes (markDirectives s (body.children "body")))
    return (n.set "body" (.node body)).set "expression" (.bool false)

/-- The body of a function, whose scope ends with it. -/
def functionBody (n : Node) (isArrow : Bool) (head : ForHead) : Parse Node := do
  if isArrow && !(← at_ .braceL) then
    let n := (n.set "body" (.node (← assign head))).set "expression" (.bool true)
    checkParameters (n.children "params") true
    exitScope
    return n
  else
    let n ← blockBody n
    exitScope
    return n

/-! ### Functions -/

def parameters (n : Node) : Parse Node := do
  expect .parenL
  let n := n.set "params" (.holes (← bindingList .parenR false))
  checkDefaults
  return n

/-- The name of a function or class where one is given. -/
def optionalName : Parse (Option Node) := do
  if ← at_ .name then return some (← identifier) else return none

/-- The name of a declared function. One below another statement is not declared. -/
def declaredName (naming : Naming) (hanging : Bool) : Parse (Option Node) := do
  let id ← if naming == .optional then optionalName else some <$> identifier
  if let some id := id then unless hanging do checkSimple id (← functionBinding)
  return id

/-- A function after its keyword. -/
def plainFunction (n : Node) (naming : Naming) (hanging isAsync : Bool) : Parse Node := do
  if (← at_ .star) && hanging then unexpected
  let generator ← eat .star
  let n := initFunction n generator isAsync
  let n ← if naming == .expression then pure n else do
    pure (n.set "id" (.ofOption (← declaredName naming hanging)))
  let n ← withOwnSuspensions do
    enterScope (functionScope isAsync generator)
    let n ← if naming == .expression then do pure (n.set "id" (.ofOption (← optionalName))) else pure n
    functionBody (← parameters n) false .none
  finish n (if naming == .expression then .functionExpression else .functionDeclaration)

/-- A method from its parameters on. -/
def plainMethod (generator isAsync superCall : Bool) : Parse Node := do
  let n := initFunction (← startNode) generator isAsync
  let n ← withOwnSuspensions do
    enterScope { functionScope isAsync generator with method := true, derivedConstructor := superCall }
    functionBody (← parameters n) false .none
  finish n .functionExpression

/-- An arrow function after its arrow. -/
def plainArrow (n : Node) (items : List (Option Node)) (isAsync : Bool) (head : ForHead) : Parse Node := do
  enterScope { functionScope isAsync false with arrow := true }
  let n := initFunction n false isAsync
  let n ← withOwnSuspensions do
    let n := n.set "params" (.holes (← assignableList items true))
    functionBody n true head
  finish n .arrowFunctionExpression

end EcmaModule.Grammar.Parse
