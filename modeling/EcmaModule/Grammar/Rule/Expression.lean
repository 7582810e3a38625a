import EcmaModule.Grammar.Rule.Class

/-! Expressions. -/
namespace EcmaModule.Grammar.Parse

variable [Descent]

def ForHead.isSome : ForHead → Bool
  | .none => false
  | _ => true

/-! ### Lists -/

def plainSpread (notes : Option NotePage) : Parse Node := do
  let n ← startNode
  next
  finish (n.set "argument" (.node (← assign .none notes))) .spreadElement

/-- Expressions separated by commas up to a bracket, which is eaten. -/
def expressionList (close : TokenKind) (holes : Bool) (notes : Option NotePage) : Parse (List (Option Node)) := do
  let mut items : Array (Option Node) := #[]
  for _ in [0 : ← steps] do
    if ← eat close then return items.toList
    unless items.isEmpty do
      expect .comma
      if ← eatAfterComma close then return items.toList
    if holes && (← at_ .comma) then items := items.push none
    else if ← at_ .ellipsis then
      items := items.push (← descend (.spread notes))
      if ← at_ .comma then
        let pos ← start
        note notes fun p => { p with trailingComma := p.trailingComma.or (some pos) }
    else items := items.push (← assign .none notes true)
  throw .exhausted

/-- The arguments of a call after the opening parenthesis. -/
def arguments (notes : Option NotePage := none) : Parse (List (Option Node)) :=
  expressionList .parenR false notes

/-! ### Sequences and assignments -/

/-- An expression, perhaps a sequence of several. -/
def plainExpression (head : ForHead) (notes : Option NotePage) : Parse Node := do
  let r ← reader
  let first ← assign head notes
  unless ← at_ .comma do return first
  let mut items : Array Node := #[first]
  for _ in [0 : ← steps] do
    unless ← eat .comma do break
    items := items.push (← assign head notes)
  finish ((nodeAt r.start r.startLoc).set "expressions" (.nodes items.toList)) .sequenceExpression

/-- A `yield` expression. -/
def yieldExpression (head : ForHead) : Parse Node := do
  let pos ← start
  modify fun s => if s.yieldPos == 0 then { s with yieldPos := pos } else s
  let n ← startNode
  next
  let k ← kind
  let isAssertion := (← isTyped) && k == .relational
  if k == .semi || (← canEndStatement) || (k != .star && !k.startsExpr && !isAssertion) then
    finish ((n.set "delegate" (.bool false)).set "argument" .null) .yieldExpression
  else
    let delegate ← eat .star
    finish ((n.set "delegate" (.bool delegate)).set "argument" (.node (← assign head))) .yieldExpression

/-- An arrow function may start at the current token. -/
def noteArrow (head : ForHead) : Parse Unit := do
  let pos ← start
  modify fun s => { s with arrowAt := some pos, arrowInForAwait := head == .await }

/-- The notes with a fresh record of what only an assignment forbids. -/
def restartNotes (page : NotePage) : Parse Unit :=
  modifyNotes page fun p => { p with parenthesizedAssign := none, trailingComma := none }

/-- An assignment at its operator. `own` says that nothing outside has a part in the notes.
In typed sources its target may be a cast, like that of a binding, and what may turn out to
be a parameter is checked later. -/
def assignmentFrom (left : Node) (r : Reader) (page : NotePage) (own : Bool) (old : PatternNotes) (head : ForHead) :
    Parse Node := do
  let op ← value
  let isPlain ← at_ .eq
  let left ← if isPlain then assignable left (← isTyped) (some page) else pure left
  unless own do
    modifyNotes page fun p => { p with parenthesizedAssign := none, trailingComma := none, repeatedProto := none }
  modifyNotes page fun p =>
    if p.shorthandAssign.elim false fun at_ => left.start ≤ at_ then { p with shorthandAssign := none } else p
  unless (← types).inArrowParameters do
    if isPlain then checkPattern left else checkSimple left
  let n := ((nodeAt r.start r.startLoc).set "operator" (.word op.wordD)).set "left" (.node left)
  next
  let n := n.set "right" (.node (← assign head))
  if old.repeatedProto.isSome then modifyNotes page fun p => { p with repeatedProto := old.repeatedProto }
  finish n .assignmentExpression

/-- Puts back notes that were there before the expression. -/
def restoreNotes (page : NotePage) (old : PatternNotes) : Parse Unit :=
  modifyNotes page fun p => { p with
    parenthesizedAssign := old.parenthesizedAssign.or p.parenthesizedAssign
    trailingComma := old.trailingComma.or p.trailingComma }

/-- The rest of an expression without commas, on a page of notes. `conditional` reads what
stands left of an assignment operator. -/
def assignWith (conditional : NotePage → Parse Node) (page : NotePage) (own : Bool) (head : ForHead) :
    Parse Node := do
  let old ← notesOn page
  restartNotes page
  let r ← reader
  let k ← kind
  if k == .parenL || k.isIdentifier then noteArrow head
  let left ← conditional page
  if (← kind).isAssign then assignmentFrom left r page own old head
  else
    if own then raiseExpressionErrors (some page)
    restoreNotes page old
    return left

/-- A `yield` that is no expression of its own does not change what a slash means. -/
def resetAfterYield : Parse Unit := do
  if ← atWord "yield" then setExprAllowed false

def binaryFrom (left : Node) (start : Nat) (loc : Loc) (head : ForHead) : Parse Node :=
  descend (.binary left start loc 0 head)

/-- Operands and binary operators. -/
def operators (head : ForHead) (notes : Option NotePage) : Parse Node := do
  let r ← reader
  let n ← unary notes false false head
  if ← hasExpressionErrors notes then return n
  if n.start == r.start && n.is .arrowFunctionExpression then return n
  binaryFrom n r.start r.startLoc head

/-- The branches of a conditional after the test, if a question mark follows. -/
def branches (test : Node) (r : Reader) (head : ForHead) : Parse Node := do
  unless ← eat .question do return test
  let n := (nodeAt r.start r.startLoc).set "test" (.node test)
  let n := n.set "consequent" (.node (← assign))
  expect .colon
  finish (n.set "alternate" (.node (← assign head))) .conditionalExpression

def conditional (head : ForHead) (notes : Option NotePage) : Parse Node := do
  let r ← reader
  let n ← operators head notes
  if ← hasExpressionErrors notes then return n
  branches n r head

/-- An expression without commas. -/
def plainAssign (head : ForHead) (notes : Option NotePage) : Parse Node := do
  if (← atWord "yield") && (← get).inGeneratorBody then yieldExpression head
  else
    resetAfterYield
    match notes with
    | some page => assignWith (fun p => conditional head (some p)) page false head
    | none => withNotes fun page => assignWith (fun p => conditional head (some p)) page true head

/-! ### Operators -/

def binaryNode (start : Nat) (loc : Loc) (left right : Node) (op : String) (logical : Bool) : Parse Node := do
  if right.is .privateIdentifier then raise right.start .privateNotLeft
  let n := (((nodeAt start loc).set "left" (.node left)).set "operator" (.word op)).set "right" (.node right)
  finish n (if logical then .logicalExpression else .binaryExpression)

def isLogical (k : TokenKind) : Bool := k == .logicalOr || k == .logicalAnd

/-- The precedence of the operator at the current token, unless it is `in` in the head of
a `for`. -/
def operatorPrecedence? (head : ForHead) : Parse (Option Nat) := do
  let k ← kind
  if ForHead.isSome head && k == .keyword .inK then return none else return k.precedence?

/-- One operator and its right operand, whose own operators bind more tightly. -/
def binaryStep (left : Node) (start : Nat) (loc : Loc) (precedence : Nat) (head : ForHead) : Parse Node := do
  let k ← kind
  let op := (← value).wordD
  -- `??` binds like `&&`, so that its right operand holds no logical operator.
  let precedence := if k == .coalesce then 2 else precedence
  next
  let r ← reader
  let operand ← unary none false false head
  let right ← descend (.binary operand r.start r.startLoc precedence head)
  let n ← binaryNode start loc left right op (isLogical k || k == .coalesce)
  let after ← kind
  if (isLogical k && after == .coalesce) || (k == .coalesce && isLogical after) then
    complain (← Parse.start) .mixedCoalesce
  return n

/-- The operators after `left` that bind more tightly than `precedence`. -/
def plainBinary (left : Node) (start : Nat) (loc : Loc) (precedence : Nat) (head : ForHead) : Parse Node := do
  let mut left := left
  for _ in [0 : ← steps] do
    match ← operatorPrecedence? head with
    | some p => if precedence < p then left ← binaryStep left start loc p head else return left
    | none => return left
  return left

/-- The node is a private member, perhaps at the end of a chain. -/
def isPrivateMember (n : Node) : Bool :=
  let isMember (m : Node) : Bool :=
    m.is .memberExpression && (m.child? "property").elim false fun p => p.is .privateIdentifier
  isMember n || (n.is .chainExpression && (n.child? "expression").elim false isMember)

/-- An operator before its operand. -/
def prefixExpression (notes : Option NotePage) (head : ForHead) : Parse (Node × Bool) := do
  let n ← startNode
  let update ← at_ .incDec
  let op := (← value).wordD
  let n := (n.set "operator" (.word op)).set "prefix" (.bool true)
  next
  let argument ← unary none true update head
  let n := n.set "argument" (.node argument)
  raiseExpressionErrors notes
  let mut saw := false
  if update then checkSimple argument
  else if op == "delete" && argument.is .identifier then complain n.start .deletingLocal
  else if op == "delete" && isPrivateMember argument then complain n.start .deletingPrivate
  else saw := true
  return (← finish n (if update then .updateExpression else .unaryExpression), saw)

def awaitExpression (head : ForHead) : Parse Node := do
  let pos ← start
  modify fun s => if s.awaitPos == 0 then { s with awaitPos := pos } else s
  let n ← startNode
  next
  finish (n.set "argument" (.node (← unary none true false head))) .awaitExpression

/-- A private name before `in`. -/
def privateOperand (head : ForHead) : Parse Node := do
  if ForHead.isSome head || (← get).privateNames.isEmpty then unexpected
  let n ← privateName
  unless ← atKeyword .inK do unexpected
  return n

/-- Operators after an operand, on its line. -/
def postfixExpression (n : Node) (r : Reader) : Parse Node := do
  let mut n := n
  for _ in [0 : ← steps] do
    unless (← at_ .incDec) && !(← canEndStatement) do return n
    let op := (← value).wordD
    let u := (((nodeAt r.start r.startLoc).set "operator" (.word op)).set "prefix" (.bool false)).set "argument"
      (.node n)
    checkSimple n
    next
    n ← finish u .updateExpression
  return n

/-- A power, if its operator follows; a unary operator cannot stand before it. -/
def powerFrom (n : Node) (r : Reader) (sawUnary incDec : Bool) (head : ForHead) : Parse Node := do
  if ← eatIf (!incDec) .starstar then
    if sawUnary then unexpectedAt (← lastStart)
    binaryNode r.start r.startLoc n (← unary none false false head) "**" false
  else return n

def plainUnary (notes : Option NotePage) (sawUnary incDec : Bool) (head : ForHead) : Parse Node := do
  let r ← reader
  if (← atWord "await") && (← get).allowsAwait then
    let n ← awaitExpression head
    powerFrom n r true incDec head
  else if r.kind.isPrefixOp then
    let (n, saw) ← prefixExpression notes head
    powerFrom n r (sawUnary || saw) incDec head
  else if !sawUnary && r.kind == .privateId then
    powerFrom (← privateOperand head) r sawUnary incDec head
  else
    let n ← leftHand notes head
    if ← hasExpressionErrors notes then return n
    let n ← postfixExpression n r
    powerFrom n r sawUnary incDec head

/-! ### Members, calls and templates -/

/-- Notes on parentheses are void once a member of what they hold is taken. -/
def forgetParentheses (page : NotePage) (from_ : Nat) : Parse Unit :=
  let keep (at_ : Option Nat) : Option Nat := at_.filter fun a => a < from_
  modifyNotes page fun p => { p with
    parenthesizedAssign := keep p.parenthesizedAssign
    parenthesizedBind := keep p.parenthesizedBind
    trailingComma := keep p.trailingComma }

/-- The token before the current one is a closing parenthesis. -/
def lastIsParenR : Parse Bool := do
  let s ← get
  return s.reader.lastStop == s.reader.lastStart + 1 && s.input.unit s.reader.lastStart == 0x29

def plainLeftHand (notes : Option NotePage) (head : ForHead) : Parse Node := do
  let r ← reader
  let base ← atom notes head
  if base.is .arrowFunctionExpression && !(← lastIsParenR) then return base
  let n ← descend (.subscripts base r.start r.startLoc false head)
  if let some page := notes then
    if n.is .memberExpression then forgetParentheses page n.start
  return n

/-- The name `async` just read may start an arrow function. -/
def maybeAsyncArrow (base : Node) : Parse Bool := do
  let s ← get
  return base.isNamed "async" && s.reader.lastStop == base.stop && !(← canEndStatement)
    && base.stop - base.start == 5 && s.arrowAt == some base.start

/-- A member of an object, once the dot or bracket before it is eaten. -/
def memberFrom (base : Node) (start : Nat) (loc : Loc) (computed optional : Bool) : Parse Node := do
  let n := (nodeAt start loc).set "object" (.node base)
  let property ←
    if computed then do
      let p ← expression
      expect .bracketR
      pure p
    else if (← at_ .privateId) && !base.is .superReference then privateName
    else anyName
  let n := ((n.set "property" (.node property)).set "computed" (.bool computed)).set "optional" (.bool optional)
  finish n .memberExpression

/-- The record of `yield` and `await` of arguments, joined to the one before them. -/
def joinSuspensions (yieldPos awaitPos awaitNamePos : Nat) : Parse Unit :=
  modify fun s => { s with
    yieldPos := if yieldPos != 0 then yieldPos else s.yieldPos
    awaitPos := if awaitPos != 0 then awaitPos else s.awaitPos
    awaitNamePos := if awaitNamePos != 0 then awaitNamePos else s.awaitNamePos }

def setSuspensions (yieldPos awaitPos awaitNamePos : Nat) : Parse Unit :=
  modify fun s => { s with yieldPos := yieldPos, awaitPos := awaitPos, awaitNamePos := awaitNamePos }

/-- Checks the arguments of a call of `async` that turn out to be parameters. -/
def checkAsyncParameters (page : NotePage) : Parse Unit := do
  checkPatternNotes (some page) false
  checkDefaults
  let pos := (← get).awaitNamePos
  if 0 < pos then raise pos .awaitInAsync

/-- A call after its parenthesis, or an async arrow function. -/
def callFrom (base : Node) (start : Nat) (loc : Loc) (maybeAsync optional : Bool) (head : ForHead) : Parse Node := do
  let yieldPos := (← get).yieldPos
  let awaitPos := (← get).awaitPos
  let awaitNamePos := (← get).awaitNamePos
  clearSuspensions
  withNotes fun page => do
    let items ← arguments (some page)
    if ← eatIf (maybeAsync && !optional && !(← canEndStatement)) .arrow then
      checkAsyncParameters page
      setSuspensions yieldPos awaitPos awaitNamePos
      arrow (nodeAt start loc) items true head
    else
      raiseExpressionErrors (some page)
      joinSuspensions yieldPos awaitPos awaitNamePos
      let n := ((nodeAt start loc).set "callee" (.node base)).set "arguments" (.holes items)
      finish (n.set "optional" (.bool optional)) .callExpression

/-- A template with a tag. -/
def taggedFrom (base : Node) (start : Nat) (loc : Loc) : Parse Node := do
  let n := (nodeAt start loc).set "tag" (.node base)
  finish (n.set "quasi" (.node (← template true))) .taggedTemplateExpression

/-- One member, call or template after `base`, if there is one. -/
def plainSubscript (base : Node) (start : Nat) (loc : Loc) (noCalls maybeAsync chained : Bool) (head : ForHead) :
    Parse (Option Node) := do
  let optional ← eat .questionDot
  if noCalls && optional then raise (← lastStart) .chainInNew
  let computed ← eat .bracketL
  let direct := computed || (optional && !(← at_ .parenL) && !(← at_ .backQuote))
  if direct || (← eatIf (!direct) .dot) then
    some <$> memberFrom base start loc computed optional
  else if ← eatIf (!noCalls) .parenL then some <$> callFrom base start loc maybeAsync optional head
  else if ← at_ .backQuote then
    if optional || chained then raise (← Parse.start) .chainInTag
    some <$> taggedFrom base start loc
  else return none

/-- The end of a chain, if there was one. -/
def chainFrom (n : Node) (start : Nat) (loc : Loc) (chained : Bool) : Parse Node :=
  if chained then finish ((nodeAt start loc).set "expression" (.node n)) .chainExpression else pure n

def plainSubscripts (base : Node) (start : Nat) (loc : Loc) (noCalls : Bool) (head : ForHead) : Parse Node := do
  let maybeAsync ← maybeAsyncArrow base
  let mut base := base
  let mut chained := false
  for _ in [0 : ← steps] do
    match ← plainSubscript base start loc noCalls maybeAsync chained head with
    | none => return ← chainFrom base start loc chained
    | some n =>
      chained := chained || n.isTrue "optional"
      if n.is .arrowFunctionExpression then return ← chainFrom n start loc chained
      base := n
  return base

/-! ### Parentheses -/

/-- What was read between parentheses. -/
structure ParenItems where
  items : List Node
  /-- A comma stands before the closing parenthesis. -/
  commaLast : Bool
  spread : Option Nat
  innerStart : Nat
  innerLoc : Loc
  innerStop : Nat
  innerStopLoc : Loc

/-- The contents of parentheses after the opening one, up to the closing one. -/
def parenContents (page : NotePage) : Parse (List Node × Bool × Option Nat) := do
  let mut items : Array Node := #[]
  for _ in [0 : ← steps] do
    if ← at_ .parenR then return (items.toList, false, none)
    unless items.isEmpty do expect .comma
    if ← at_ .parenR then return (items.toList, true, none)
    if ← at_ .ellipsis then
      let pos ← start
      items := items.push (← restBinding)
      if ← at_ .comma then complain (← start) .commaAfterRest
      return (items.toList, false, some pos)
    items := items.push (← assign .none (some page) true)
  throw .exhausted

def parenItems (page : NotePage) : Parse ParenItems := do
  next
  let r ← reader
  let (items, commaLast, spread) ← parenContents page
  let last ← reader
  expect .parenR
  return ⟨items, commaLast, spread, r.start, r.startLoc, last.lastStop, last.lastStopLoc⟩

/-- What is wrong with parentheses that hold no parameters. -/
def checkParenItems (p : ParenItems) : Parse Unit := do
  if p.items.isEmpty || p.commaLast then unexpectedAt (← lastStart)
  if let some pos := p.spread then unexpectedAt pos

/-- The expression that parentheses hold. -/
def parenValue (p : ParenItems) : Node :=
  match p.items with
  | [n] => n
  | ns =>
    ((nodeAt p.innerStart p.innerLoc).set "expressions" (.nodes ns)).withKind .sequenceExpression
      |>.endingAt p.innerStop p.innerStopLoc

/-- An expression in parentheses, or the parameters of an arrow function and the rest of
it. -/
def parenOrArrow (canBeArrow : Bool) (head : ForHead) : Parse Node := do
  let r ← reader
  let yieldPos := (← get).yieldPos
  let awaitPos := (← get).awaitPos
  modify fun s => { s with yieldPos := 0, awaitPos := 0 }
  withNotes fun page => do
    let p ← parenItems page
    if ← eatIf (canBeArrow && !(← canEndStatement)) .arrow then
      checkPatternNotes (some page) false
      checkDefaults
      modify fun s => { s with yieldPos := yieldPos, awaitPos := awaitPos }
      arrow (nodeAt r.start r.startLoc) (p.items.map some) false head
    else
      checkParenItems p
      raiseExpressionErrors (some page)
      modify fun s => { s with
        yieldPos := if yieldPos != 0 then yieldPos else s.yieldPos
        awaitPos := if awaitPos != 0 then awaitPos else s.awaitPos }
      return parenValue p

/-- The expression can be assigned to as it is. -/
def isSimpleTarget (n : Node) : Bool := n.is .identifier || n.is .memberExpression || n.isCast

/-- Notes that an expression stands in parentheses from `pos` on. -/
def noteParentheses (notes : Option NotePage) (n : Node) (pos : Nat) : Parse Unit :=
  note notes fun p => { p with
    parenthesizedAssign := if isSimpleTarget n then p.parenthesizedAssign else p.parenthesizedAssign.or (some pos)
    parenthesizedBind := p.parenthesizedBind.or (some pos) }

/-! ### Atoms -/

def superAtom : Parse Node := do
  let n ← startNode
  unless (← get).allowsSuper do raise n.start .superOutsideMethod
  next
  let k ← kind
  if k == .parenL && !(← get).allowsSuperCall then raise n.start .superCallOutsideConstructor
  unless k == .dot || k == .bracketL || k == .parenL do unexpected
  finish n .superReference

/-- An arrow function of one parameter without parentheses may be async here. -/
def mayReadOf : Parse Bool := do
  let s ← get
  return !s.arrowInForAwait || !s.reader.value.isWord "of" || s.reader.escaped

/-- A name, or a function that starts with one. -/
def nameAtom (canBeArrow : Bool) (head : ForHead) : Parse Node := do
  let r ← reader
  let id ← identifier
  let isAsync := id.isNamed "async" && !r.escaped
  if ← eatIf (isAsync && !(← canEndStatement)) (.keyword .functionK) then
    overrideContext .functionExpression
    return ← function (nodeAt r.start r.startLoc) .expression false true
  if canBeArrow && !(← canEndStatement) then
    if ← eat .arrow then return ← arrow (nodeAt r.start r.startLoc) [some id] false head
    if isAsync && (← at_ .name) && (← mayReadOf) then
      let id ← identifier
      if ← canEndStatement then unexpected
      unless ← eat .arrow do unexpected
      return ← arrow (nodeAt r.start r.startLoc) [some id] true head
  return id

def patternAtom (source flags : Text) : Parse Node := do
  let n ← literal (.regexp source flags)
  return n.set "regex" (.value (.object [("pattern", .string source), ("flags", .string flags)]))

/-- A literal that is a keyword. -/
def wordLiteral (k : Keyword) (v : Value) : Parse Node := do
  let n ← startNode
  next
  finish ((n.set "value" (.value v)).set "raw" (.word k.text)) .literal

def arrayAtom (notes : Option NotePage) : Parse Node := do
  let n ← startNode
  next
  finish (n.set "elements" (.holes (← expressionList .bracketR true notes))) .arrayExpression

/-- `import` or `new` as the first name of a meta property. -/
def metaName (n : Node) (word : String) : Parse Node :=
  finish ((nodeAtStartOf n).set "name" (.word word)) .identifier

/-- The second name of a meta property after its dot. -/
def metaProperty (n : Node) (first allowed : String) (wrongName escaped : Complaint) : Parse Node := do
  let n := n.set "meta" (.node (← metaName n first))
  next
  let wasEscaped := (← reader).escaped
  let property ← anyName
  unless property.isNamed allowed do complain property.start wrongName
  if wasEscaped then complain n.start escaped
  return n.set "property" (.node property)

def importCall (n : Node) : Parse Node := do
  next
  let n := n.set "source" (.node (← assign))
  unless ← eat .parenR do
    let pos ← start
    if ← eat .comma <&&> eat .parenR then complain pos .trailingCommaInImport
    else unexpectedAt pos
  finish n .importExpression

/-- An `import` in an expression. -/
def importAtom (call : Node → Parse Node) (forNew : Bool) : Parse Node := do
  let n ← startNode
  if (← reader).escaped then complain n.start (.escapedKeyword "import")
  next
  if (← at_ .parenL) && !forNew then call n
  else if ← at_ .dot then
    finish (← metaProperty n "import" "meta" .metaOfImport .escapedImportMeta) .metaProperty
  else unexpected

def newTarget (n : Node) : Parse Node := do
  let n ← metaProperty n "new" "target" .metaOfNew .escapedNewTarget
  unless (← get).allowsNewTarget do complain n.start .newTargetOutsideFunction
  finish n .metaProperty

def plainNew : Parse Node := do
  let n ← startNode
  if (← reader).escaped then complain n.start (.escapedKeyword "new")
  next
  if ← at_ .dot then newTarget n
  else
    let r ← reader
    let base ← atom none .none true
    let callee ← descend (.subscripts base r.start r.startLoc true .none)
    if callee.is .superReference then complain r.start .invalidSuper
    let items ← if ← eat .parenL then arguments else pure []
    finish ((n.set "callee" (.node callee)).set "arguments" (.holes items)) .newExpression

/-- Reads a division sign again as the start of a regular expression. -/
def rereadSlash : Parse Unit := do if ← at_ .slash then regularExpression

/-- The arrow function that was announced starts at the current token. -/
def canBeArrow : Parse Bool := do
  let s ← get
  return s.arrowAt == some s.reader.start

def plainAtom (notes : Option NotePage) (head : ForHead) (forNew : Bool) : Parse Node := do
  rereadSlash
  let arrowHere ← canBeArrow
  let r ← reader
  match r.kind with
  | .keyword .superK => superAtom
  | .keyword .thisK =>
    let n ← startNode
    next
    finish n .thisExpression
  | .name => nameAtom arrowHere head
  | .regexp =>
    match r.value with
    | .pattern p f => patternAtom p f
    | _ => unexpected
  | .num => literal (← tokenValue)
  | .string => literal (← tokenValue)
  | .keyword .nullK => wordLiteral .nullK .null
  | .keyword .trueK => wordLiteral .trueK (.bool true)
  | .keyword .falseK => wordLiteral .falseK (.bool false)
  | .parenL =>
    let n ← parenOrArrow arrowHere head
    noteParentheses notes n r.start
    return n
  | .bracketL => arrayAtom notes
  | .braceL =>
    overrideContext .blockExpression
    descend (.object false notes)
  | .keyword .functionK =>
    let n ← startNode
    next
    function n .expression false false
  | .keyword .classK => classNode (← startNode) .expression
  | .keyword .newK => plainNew
  | .backQuote => template false
  | .keyword .importK => importAtom importCall forNew
  | _ => unexpected

end EcmaModule.Grammar.Parse
