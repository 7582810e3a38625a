import EcmaModule.Grammar.Typed.Object

/-! Expressions of typed sources: casts, assertions, type arguments and annotated arrow
functions. -/
namespace EcmaModule.Grammar.Parse

variable [Descent]

/-! ### Items -/

/-- A spread, with a type if it may turn out to be a parameter. -/
def typedSpread (notes : Option NotePage) : Parse Node := do
  let n ← plainSpread notes
  if (← types).inArrowParameters then setColonType n else return n

/-- An expression in a list as the parameter it may turn out to be: perhaps optional and
annotated. -/
def listItem (n : Node) : Parse Node := do
  let n ← if ← eat .question then endHere (n.set "optional" (.bool true)) else pure n
  unless ← at_ .colon do return n
  let c := (← startNode).set "expression" (.node n)
  finish (c.set "typeAnnotation" (.node (← colonType))) .tsTypeCastExpression

/-! ### Assignments -/

/-- A condition. In what may be parameters a question mark may belong to a parameter. -/
def typedConditional (head : ForHead) (notes : Option NotePage) : Parse Node := do
  let r ← reader
  let n ← operators head notes
  if ← hasExpressionErrors notes then return n
  if (← types).inArrowParameters && (← at_ .question) then
    match ← attempt (branches n r head) with
    | .done c => return c
    | _ => return n
  else branches n r head

/-- An expression without commas that does not start with type parameters. -/
def assignPlainly (head : ForHead) (notes : Option NotePage) (isItem : Bool) : Parse Node := do
  if (← atWord "yield") && (← get).inGeneratorBody then yieldExpression head
  else
    resetAfterYield
    let left (page : NotePage) : Parse Node := do
      let n ← typedConditional head (some page)
      if isItem then listItem n else return n
    match notes with
    | some page => assignWith left page false head
    | none => withNotes fun page => assignWith left page true head

/-- An arrow function after its type parameters. -/
def genericArrow (head : ForHead) (notes : Option NotePage) (isItem : Bool) : Parse Node := do
  let params ← typeParameters [.constM]
  let n ← assignPlainly head notes isItem
  unless n.is .arrowFunctionExpression do giveUp
  return (n.startingAt params.start params.startLoc).set "typeParameters" (.node params)

/-- An expression without commas. One that starts with a bracket is an arrow function or
else an assertion. -/
def typedAssign (head : ForHead) (notes : Option NotePage) (isItem : Bool) : Parse Node := do
  unless ← atLess do return ← assignPlainly head notes isItem
  match ← attempt (genericArrow head notes isItem) with
  | .done n => return n
  | arrow =>
    match ← attempt (assignPlainly head notes isItem), arrow with
    | .done n, _ => return n
    | _, .failed why => throw why
    | .failed why, _ => throw why
    | _, _ => unexpected

/-! ### Operators -/

/-- The type `const` in an assertion, after the current token. -/
def constType? : Parse (Option Node) := do
  if (← ahead).kind == .keyword .constK then
    next
    return some (← typeReference)
  else return none

/-- The type of an assertion, after the current token. -/
def assertedType : Parse Node := do
  match ← constType? with
  | some t => return t
  | none => inType do
    next
    type

/-- An expression after a type in brackets, or type parameters if none can be read. -/
def typeAssertion : Parse Node := do
  let read : Parse Node := do
    let n ← startNode
    let n := n.set "typeAnnotation" (.node (← assertedType))
    expect .relational
    finish (n.set "expression" (.node (← unary none false false .none))) .tsTypeAssertion
  match ← attempt read with
  | .done n => return n
  | _ => typeParameters [.constM]

def typedUnary (notes : Option NotePage) (sawUnary incDec : Bool) (head : ForHead) : Parse Node := do
  if ← atLess then typeAssertion else plainUnary notes sawUnary incDec head

/-- Reads a bracket again that was read as one of types. -/
def rereadAngle : Parse Unit := do
  if ← at_ .relational then
    modifyReader fun r => { r with pos := r.pos - 1 }
    angleToken (← peek)

/-- The assertion that the current word makes about the expression before it. -/
def castKind? : Parse (Option NodeKind) := do
  let r ← reader
  if r.isWord "as" then return some .tsAsExpression
  else if r.isWord "satisfies" then return some .tsSatisfiesExpression
  else return none

/-- An assertion after its expression. -/
def castFrom (left : Node) (start : Nat) (loc : Loc) (k : NodeKind) : Parse Node := do
  let n := (nodeAt start loc).set "expression" (.node left)
  let n ← finish (n.set "typeAnnotation" (.node (← assertedType))) k
  rereadAngle
  return n

/-- The operators after `left` that bind more tightly than `precedence`; assertions bind
like comparisons. -/
def typedBinary (left : Node) (start : Nat) (loc : Loc) (precedence : Nat) (head : ForHead) : Parse Node := do
  let mut left := left
  for _ in [0 : ← steps] do
    let cast ← if precedence < 7 && !(← newlineBefore) then castKind? else pure none
    match cast with
    | some k => left ← castFrom left start loc k
    | none =>
      match ← operatorPrecedence? head with
      | some p => if precedence < p then left ← binaryStep left start loc p head else return left
      | none => return left
  return left

/-! ### Type arguments -/

/-- An async arrow function after its type parameters. -/
def genericAsyncArrow? (start : Nat) (loc : Loc) (head : ForHead) : Parse (Option Node) := do
  unless ← atLess do return none
  let old := (← types).inArrowParameters
  modifyTypes fun t => { t with inArrowParameters := true }
  let read : Parse Node := do
    let n := nodeAt start loc
    let n := n.set "typeParameters" (.node (← typeParameters [.constM]))
    let n ← parameters n
    let n ← if ← at_ .colon then pure (n.set "returnType" (.node (← resultType .colon))) else pure n
    expect .arrow
    return n
  let n ← attempt? read
  modifyTypes fun t => { t with inArrowParameters := old }
  match n with
  | some n => some <$> arrowWith n pure true head
  | none => return none

/-- The items of a call with type arguments cannot be annotated. -/
def checkCasts (items : List (Option Node)) : Parse Unit := do
  for item in items do
    if let some n := item then
      if n.is .tsTypeCastExpression then
        refuse ((n.child? "typeAnnotation").elim n.start Node.start) .typeOnExpression

/-- A call after its parenthesis with type arguments before it. -/
def genericCall (base args : Node) (start : Nat) (loc : Loc) (chained optional : Bool) : Parse Node :=
  withNotes fun page => do
    let n := (nodeAt start loc).set "callee" (.node base)
    let items ← arguments (some page)
    checkCasts items
    let n := (n.set "arguments" (.holes items)).set "typeArguments" (.node args)
    raiseExpressionErrors (some page)
    finish (if chained then n.set "optional" (.bool optional) else n) .callExpression

/-- What was read after type arguments. -/
inductive Instantiation where
  | expression (n : Node)
  /-- The parenthesis of an optional call is missing. -/
  | callMissing

/-- What starts at type arguments after `base`. They are none if the token after them
shows that the bracket is an operator. -/
def instantiationFrom (base : Node) (start : Nat) (loc : Loc) (noCalls chained optional : Bool) (head : ForHead) :
    Parse Instantiation := do
  if ← (pure !noCalls) <&&> maybeAsyncArrow base then
    if let some n ← genericAsyncArrow? start loc head then return .expression n
  let args ← expressionTypeArguments
  let k ← kind
  if optional && k != .parenL then return .callMissing
  if k == .invalidTemplate || k == .backQuote then
    let n ← taggedFrom base start loc
    if chained then raise start (.typed .templateInChain)
    return .expression (n.set "typeArguments" (.node args))
  if ← eatIf (!noCalls) .parenL then return .expression (← genericCall base args start loc chained optional)
  if (← atGreater) || k == .bitShift || (k != .parenL && k.startsExpr && !(← newlineBefore)) then giveUp
  let n := ((nodeAt start loc).set "expression" (.node base)).set "typeArguments" (.node args)
  return .expression (← finish n .tsInstantiationExpression)

/-- A member does not follow type arguments without a call. -/
def checkInstantiation (n : Node) : Parse Unit := do
  if n.is .tsInstantiationExpression then
    let isMember ← at_ .dot <||> (at_ .questionDot <&&> do return (← unitAfter) != 0x28)
    if isMember then refuse (← start) .memberOfInstantiation

/-! ### Members and calls -/

/-- An arrow function's parameters are followed by an arrow, perhaps after the type of its
result. -/
def arrowResult? : Parse (Option Node) := do
  attempt? do
    let t ← resultType .colon
    if (← canEndStatement) || !(← at_ .arrow) then giveUp
    return t

/-- The arrow of an async function after its parameters, and the type of the result. -/
def asyncArrow? : Parse (Option (Option Node)) := do
  let result ←
    if ← at_ .colon then
      match ← arrowResult? with
      | some t => pure (some t)
      | none => return none
    else pure none
  if ← (return !(← canEndStatement)) <&&> eat .arrow then return some result else return none

/-- A call after its parenthesis, or an async arrow function. -/
def typedCallFrom (base : Node) (start : Nat) (loc : Loc) (maybeAsync optional : Bool) (head : ForHead) :
    Parse Node := withArrowParameters true do
  let yieldPos := (← get).yieldPos
  let awaitPos := (← get).awaitPos
  let awaitNamePos := (← get).awaitNamePos
  clearSuspensions
  withNotes fun page => do
    let items ← arguments (some page)
    let result ← if maybeAsync && !optional then asyncArrow? else pure none
    match result with
    | some result =>
      checkAsyncParameters page
      setSuspensions yieldPos awaitPos awaitNamePos
      arrow (setOption (nodeAt start loc) "returnType" result) items true head
    | none =>
      raiseExpressionErrors (some page)
      joinSuspensions yieldPos awaitPos awaitNamePos
      let n := ((nodeAt start loc).set "callee" (.node base)).set "arguments" (.holes items)
      finish (n.set "optional" (.bool optional)) .callExpression

/-- One member, call or template after `base`, type arguments apart. -/
def typedMember (base : Node) (start : Nat) (loc : Loc) (noCalls maybeAsync chained : Bool) (head : ForHead) :
    Parse (Option Node) := do
  let optional ← eat .questionDot
  if noCalls && optional then raise (← lastStart) .chainInNew
  let computed ← eat .bracketL
  let direct := computed || (optional && !(← at_ .parenL) && !(← at_ .backQuote))
  if direct || (← eatIf (!direct) .dot) then some <$> memberFrom base start loc computed optional
  else if ← eatIf (!noCalls) .parenL then some <$> typedCallFrom base start loc maybeAsync optional head
  else if ← at_ .backQuote then
    if optional || chained then raise (← Parse.start) .chainInTag
    some <$> taggedFrom base start loc
  else return none

/-- A mark that the expression before it is not null. -/
def nonNullFrom (base : Node) (start : Nat) (loc : Loc) : Parse Node := do
  setExprAllowed false
  next
  finish ((nodeAt start loc).set "expression" (.node base)) .tsNonNullExpression

/-- What follows `base`: the expression that goes on, or `base` itself at its end, and
whether it goes on. -/
def typedSubscript (base : Node) (start : Nat) (loc : Loc) (noCalls maybeAsync chained : Bool) (head : ForHead) :
    Parse (Node × Bool) := do
  let bang := (← at_ .bang) && (← value).isWord "!"
  if bang && !(← newlineBefore) then return (← nonNullFrom base start loc, true)
  let optional := (← at_ .questionDot) && (← unitAfter) == 0x3C
  if optional && noCalls then return (base, false)
  if optional then next
  let base := if optional then base.set "optional" (.bool true) else base
  let chained := chained || optional
  if ← mayOpenArguments then
    match ← attempt? (instantiationFrom base start loc noCalls chained optional head) with
    | some .callMissing =>
      throw (.complaint .unexpectedToken none (some (← reader).pos))
    | some (.expression n) =>
      checkInstantiation n
      return (n, true)
    | none => pure ()
  match ← typedMember base start loc noCalls maybeAsync chained head with
  | some n => return (n, true)
  | none => return (base, false)

def typedSubscripts (base : Node) (start : Nat) (loc : Loc) (noCalls : Bool) (head : ForHead) : Parse Node := do
  let maybeAsync ← maybeAsyncArrow base
  let mut base := base
  let mut chained := false
  for _ in [0 : ← steps] do
    let (n, more) ← typedSubscript base start loc noCalls maybeAsync chained head
    chained := chained || n.isTrue "optional"
    if !more || n.is .arrowFunctionExpression then return ← chainFrom n start loc chained
    base := n
  return base

/-! ### Parentheses -/

/-- The contents of parentheses that may be parameters. -/
def typedParenContents (page : NotePage) : Parse (List Node × Bool × Option Nat) := do
  let mut items : Array Node := #[]
  for _ in [0 : ← steps] do
    if ← at_ .parenR then return (items.toList, false, none)
    unless items.isEmpty do expect .comma
    if ← at_ .parenR then return (items.toList, true, none)
    if ← at_ .ellipsis then
      let pos ← start
      items := items.push (← listItem (← restBinding))
      if ← at_ .comma then raise (← start) .commaAfterRest
      return (items.toList, false, some pos)
    items := items.push (← assign .none (some page) true)
  throw .exhausted

def typedParenItems (page : NotePage) : Parse ParenItems := withArrowParameters true do
  next
  let r ← reader
  let (items, commaLast, spread) ← typedParenContents page
  let last ← reader
  expect .parenR
  return ⟨items, commaLast, spread, r.start, r.startLoc, last.lastStop, last.lastStopLoc⟩

/-- The arrow after what can be parameters, and the type of the result before it. -/
def parenArrow? (items : List Node) : Parse (Option (Option Node)) := do
  if ← at_ .colon then
    let fuel ← steps
    unless items.all fun n => canBeAssigned fuel n true do return none
    match ← arrowResult? with
    | some t => if ← eat .arrow then return some (some t) else return none
    | none => return none
  else if ← (return !(← canEndStatement)) <&&> eat .arrow then return some none
  else return none

/-- An expression in parentheses, or the parameters of an arrow function and the rest of
it. -/
def typedParenOrArrow (canBeArrow : Bool) (head : ForHead) : Parse Node := do
  let r ← reader
  let yieldPos := (← get).yieldPos
  let awaitPos := (← get).awaitPos
  modify fun s => { s with yieldPos := 0, awaitPos := 0 }
  withNotes fun page => do
    let p ← typedParenItems page
    let result ← if canBeArrow then parenArrow? p.items else pure none
    match result with
    | some result =>
      checkPatternNotes (some page) false
      checkDefaults
      modify fun s => { s with yieldPos := yieldPos, awaitPos := awaitPos }
      arrow (setOption (nodeAt r.start r.startLoc) "returnType" result) (p.items.map some) false head
    | none =>
      checkParenItems p
      raiseExpressionErrors (some page)
      modify fun s => { s with
        yieldPos := if yieldPos != 0 then yieldPos else s.yieldPos
        awaitPos := if awaitPos != 0 then awaitPos else s.awaitPos }
      return parenValue p

/-! ### Atoms -/

/-- An import call, with what may be passed beside the module. -/
def typedImportCall (n : Node) : Parse Node := do
  next
  let n := n.set "source" (.node (← assign))
  let n ← if ← eat .comma then do pure (n.set "arguments" (.nodes [← expression])) else pure n
  expect .parenR
  finish n .importExpression

/-- The type arguments of a constructor belong to the call. -/
def newCallee (n callee : Node) : Node :=
  match callee.kind, callee.child? "expression", callee.child? "typeArguments" with
  | .tsInstantiationExpression, some e, some args => (n.set "callee" (.node e)).set "typeArguments" (.node args)
  | _, _, _ => n.set "callee" (.node callee)

def typedNew : Parse Node := do
  let n ← startNode
  if (← reader).escaped then complain n.start (.escapedKeyword "new")
  next true
  if ← at_ .dot then newTarget n
  else
    let r ← reader
    let base ← atom
    let callee ← descend (.subscripts base r.start r.startLoc true .none)
    if callee.is .importExpression && r.kind == .keyword .importK then refuse r.start .newImport
    let n := newCallee n callee
    let items ← if ← eat .parenL then arguments else pure []
    finish (n.set "arguments" (.holes items)) .newExpression

def typedAtom (notes : Option NotePage) (head : ForHead) (forNew : Bool) : Parse Node := do
  let arrowHere ← canBeArrow
  let r ← reader
  match r.kind with
  | .at =>
    keepDecorators false
    atom
  | .typeWord _ => nameAtom arrowHere head
  | .parenL =>
    let n ← typedParenOrArrow arrowHere head
    noteParentheses notes n r.start
    return n
  | .keyword .newK => typedNew
  | .keyword .importK => importAtom typedImportCall forNew
  | _ => plainAtom notes head forNew

end EcmaModule.Grammar.Parse
