import EcmaModule.Grammar.Rule.Expression
import EcmaModule.Grammar.Typed.Target

/-! Decorators: expressions after an at sign, before a class, a member or a parameter. -/
namespace EcmaModule.Grammar.Parse

variable [Descent]

/-! ### One decorator -/

/-- The members after the name of a decorator. -/
def decoratorMembers (name : Node) (r : Reader) : Parse Node := do
  let mut n := name
  for _ in [0 : ← steps] do
    unless ← eat .dot do return n
    let m := (nodeAt r.start r.startLoc).set "object" (.node n)
    n ← finish ((m.set "property" (.node (← anyName))).set "computed" (.bool false)) .memberExpression
  return n

/-- The call of a decorator, if it is called. -/
def decoratorCall (callee : Node) : Parse Node := do
  unless ← eat .parenL do return callee
  let n := (nodeAtStartOf callee).set "callee" (.node callee)
  finish (n.set "arguments" (.holes (← arguments))) .callExpression

/-- Two opening brackets read as one token are read again as one bracket. -/
def splitShift : Parse Unit := do
  if ← at_ .bitShift then
    modifyReader fun r => { r with pos := r.pos - 2 }
    operator .relational 1

/-- The current token may open type arguments. -/
def mayOpenArguments : Parse Bool := return (← atLess) || (← at_ .bitShift)

/-- Type arguments in an expression. -/
def expressionTypeArguments : Parse Node := do
  splitShift
  typeArguments

/-- The call of a decorator, perhaps with type arguments. -/
def typedDecoratorCall (callee : Node) : Parse Node := do
  unless ← mayOpenArguments do return ← decoratorCall callee
  let args ← expressionTypeArguments
  unless ← at_ .parenL do unexpected
  return (← decoratorCall callee).set "typeArguments" (.node args)

/-- An expression between parentheses as a decorator. -/
def parenDecorator : Parse Node := do
  next
  let e ← expression
  expect .parenR
  return e

def decorator : Parse Node := do
  let n ← startNode
  next
  let r ← reader
  modifyTypes fun t => { t with decorators := [] :: t.decorators }
  let callee ← if ← at_ .parenL then parenDecorator else decoratorMembers (← identifier) r
  let n := n.set "expression" (.node (← typedDecoratorCall callee))
  modifyTypes fun t => { t with decorators := t.decorators.drop 1 }
  finish n .decorator

/-- All decorators at the current token. -/
def decorators : Parse (List Node) := do
  let mut items : Array Node := #[]
  for _ in [0 : ← steps] do
    unless ← at_ .at do return items.toList
    items := items.push (← decorator)
  return items.toList

/-- Sets the decorators of a node if there are some. -/
def setDecorators (n : Node) (ds : List Node) : Node := if ds.isEmpty then n else n.set "decorators" (.nodes ds)

/-- The node starts with its first decorator. -/
def startingWith (n : Node) (ds : List Node) : Node := ds.head?.elim n fun d => n.startingAt d.start d.startLoc

/-! ### Decorators of a class -/

/-- A class that can be decorated starts at the current token, perhaps after `abstract` or
`declare`. -/
def atDecoratedClass : Parse Bool := do
  if ← atKeyword .classK then return true
  let next ← ahead
  let isClass (r : Reader) : Bool := r.kind == .keyword .classK
  if ← atTypeWord .abstractW then return isClass next
  if ← atTypeWord .declareW then
    return isClass next || (next.isTypeWord .abstractW && isClass (← ahead 2))
  return false

/-- Reads decorators and keeps them for the class that follows. -/
def keepDecorators (beforeExport : Bool) : Parse Unit := do
  let ds ← decorators
  modifyTypes fun t => { t with decorators := ((t.decorators.headD []) ++ ds) :: t.decorators.drop 1 }
  if ← atKeyword .exportK then
    unless beforeExport do unexpected
  else unless ← atDecoratedClass do refuse (← start) .decoratorWithoutClass

/-- Gives a class the decorators kept for it. -/
def takeDecorators (n : Node) : Parse Node := do
  let ds := (← types).decorators.headD []
  if ds.isEmpty then return n
  modifyTypes fun t => { t with decorators := [] :: t.decorators.drop 1 }
  return startingWith (setDecorators n ds) ds

end EcmaModule.Grammar.Parse
