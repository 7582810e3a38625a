import EcmaModule.Grammar.Rule.Expression

/-! Statements and declarations. -/
namespace EcmaModule.Grammar.Parse

variable [Descent]

/-! ### Looking at the words that follow -/

/-- The name `let` starts a declaration. Below another statement it does so only before a
bracket or an escape. -/
def isLet (nested : Bool) : Parse Bool := do
  unless ← atWord "let" do return false
  let s ← get
  let i := s.input.nextToken s.reader.pos
  let c := s.input.point i
  if c == 0x5B || c == 0x5C then return true
  if nested then return false
  if c == 0x7B then return true
  unless Identifier.isStart c do return false
  let stop := s.input.wordEnd s.input.size i
  if s.input.unit stop == 0x5C then return true
  let word := s.input.word i stop
  return word != "in" && word != "instanceof"

/-- The name `async` starts a function. -/
def isAsyncFunction : Parse Bool := do
  unless ← atWord "async" do return false
  let s ← get
  let i := s.input.nextToken s.reader.pos
  let after := s.input.point (i + 8)
  return !s.input.hasNewline s.reader.pos i && s.input.hasAt (Text.ofString "function") i
    && !(Identifier.isPart after || after == 0x5C)

/-! ### Labels -/

def pushLabel (l : Label) : Parse Unit := modify fun s => { s with labels := l :: s.labels }

def popLabel : Parse Unit := modify fun s => { s with labels := s.labels.drop 1 }

def loopLabel : Label := ⟨none, .loop, 0⟩

/-- A jump out of, or on with, the statement of a label. -/
def reaches (isBreak : Bool) (name : Option String) (l : Label) : Bool :=
  (name.isNone || l.name == name) && (l.kind == .loop || (isBreak && (l.kind == .switch || name.isSome)))

def jumpStatement (k : Keyword) (n : Node) : Parse Node := do
  let isBreak := k == .breakK
  next
  let label ←
    if (← eat .semi) || (← canEndStatement) then pure none
    else if !(← at_ .name) then unexpected
    else do
      let id ← identifier
      semicolon
      pure (some id)
  let name := label.bind Node.name?
  unless (← get).labels.any (reaches isBreak name) do raise n.start (.unsyntacticJump k.text)
  finish (n.set "label" (.ofOption label)) (if isBreak then .breakStatement else .continueStatement)

/-- The labels just before belong to the statement that starts here too. -/
def moveLabels (before after : Nat) (kind : LabelKind) : List Label → List Label
  | [] => []
  | l :: rest =>
    if l.statement == before && l.name.isSome then { l with statement := after, kind := kind } :: moveLabels before after kind rest
    else l :: rest

def labelKind (k : TokenKind) : LabelKind :=
  if k.isLoop then .loop else if k == .keyword .switchK then .switch else .other

/-- A labelled statement after its colon. -/
def labeledStatement (n label : Node) (name : String) : Parse Node := do
  if (← get).labels.any fun l => l.name == some name then raise label.start (.duplicateLabel name)
  let r ← reader
  let kind := labelKind r.kind
  modify fun s => { s with labels := ⟨some name, kind, r.start⟩ :: moveLabels n.start r.start kind s.labels }
  let body ← statement true
  popLabel
  finish ((n.set "body" (.node body)).set "label" (.node label)) .labeledStatement

/-! ### Variables -/

/-- The current token goes on with the head of a `for` over a collection. -/
def atInOrOf : Parse Bool := return (← atKeyword .inK) || (← atWord "of")

/-- Checks that a declared name or pattern can go without a value. -/
def checkMissingValue (id : Node) (isFor : Bool) (kind : String) : Parse Unit := do
  if kind == "const" && !(← atInOrOf) then unexpected
  if !id.is .identifier && !(isFor && (← atInOrOf)) then raise (← lastStop) .patternWithoutInitializer

/-- One variable of a declaration, whose name is read by `readId`; `check` is applied to the
name of one without a value. -/
def declarator (readId : Node → Parse Node) (isFor : Bool) (check : Node → Parse Unit) : Parse Node := do
  let n ← readId (← startNode)
  let id := (n.child? "id").getD n
  let init ←
    if ← eat .eq then some <$> assign (if isFor then .plain else .none)
    else do
      check id
      pure none
  finish (n.set "init" (.ofOption init)) .variableDeclarator

/-- Variables separated by commas. -/
def declarations (one : Parse Node) : Parse (List Node) := do
  let mut items : Array Node := #[]
  for _ in [0 : ← steps] do
    items := items.push (← one)
    unless ← eat .comma do return items.toList
  throw .exhausted

/-- The name or pattern of a variable. -/
def plainVariableId (kind : String) (n : Node) : Parse Node := do
  let id ← bindingAtom
  checkPattern id (if kind == "var" then .variable else .lexical)
  return n.set "id" (.node id)

/-- The fields of a variable declaration after its keyword. -/
def plainVariables (n : Node) (isFor : Bool) (kind : String) : Parse Node := do
  let items ← declarations (declarator (plainVariableId kind) isFor fun id => checkMissingValue id isFor kind)
  return (n.set "declarations" (.nodes items)).set "kind" (.word kind)

/-! ### Loops -/

/-- A collection is not walked with a variable that has a value. -/
def checkLoopVariable (init : Node) (isForIn : Bool) : Parse Unit := do
  if init.is .variableDeclaration then
    let valued := (init.children "declarations").head?.elim false fun d => (d.child? "init").isSome
    if valued then raise init.start (.initializedLoopVariable (if isForIn then "for-in" else "for-of"))

/-- The body of a `for`, which ends its scope and its label. -/
def forBody : Parse Node := do
  let body ← statement true
  exitScope
  popLabel
  return body

/-- A `for` over a collection, at its `in` or `of`. -/
def forInFrom (n init : Node) : Parse Node := do
  let isForIn ← atKeyword .inK
  next
  checkLoopVariable init isForIn
  let n := n.set "left" (.node init)
  let n := n.set "right" (.node (← if isForIn then expression else assign))
  expect .parenR
  finish (n.set "body" (.node (← forBody))) (if isForIn then .forInStatement else .forOfStatement)

/-- An expression, unless `close` comes at once. -/
def expressionUnless (close : TokenKind) : Parse Datum := do
  if ← at_ close then return .null else return .node (← expression)

/-- A `for` with three parts, after the first. -/
def forFrom (n : Node) (init : Option Node) : Parse Node := do
  let n := n.set "init" (.ofOption init)
  expect .semi
  let n := n.set "test" (← expressionUnless .semi)
  expect .semi
  let n := n.set "update" (← expressionUnless .parenR)
  expect .parenR
  finish (n.set "body" (.node (← forBody))) .forStatement

/-- The head of a `for` after its variables. -/
def forAfterVariables (n init : Node) (awaitAt : Option Nat) : Parse Node := do
  if (← atInOrOf) && (init.children "declarations").length == 1 then
    if ← atKeyword .inK then
      if let some pos := awaitAt then unexpectedAt pos
      forInFrom n init
    else forInFrom (n.set "await" (.bool awaitAt.isSome)) init
  else
    if let some pos := awaitAt then unexpectedAt pos
    forFrom n (some init)

/-- The head of a `for` that starts with an expression. -/
def forExpression (n : Node) (awaitAt : Option Nat) : Parse Node := withNotes fun page => do
  let startsWithLet ← atWord "let"
  let escaped := (← reader).escaped
  let initPos ← start
  let init ← if awaitAt.isSome then leftHand (some page) .await else expression .plain (some page)
  let isForOf := !(← atKeyword .inK)
  if ← atInOrOf then
    let n ←
      match awaitAt with
      | some pos =>
        if !isForOf then unexpectedAt pos
        pure (n.set "await" (.bool true))
      | none =>
        if isForOf then
          if init.start == initPos && !escaped && init.isNamed "async" then unexpected
          pure (n.set "await" (.bool false))
        else pure n
    if startsWithLet && isForOf then raise init.start .letBeforeOf
    let init ← assignable init false (some page)
    checkPattern init
    forInFrom n init
  else
    raiseExpressionErrors (some page)
    if let some pos := awaitAt then unexpectedAt pos
    forFrom n (some init)

def forStatement (variableList : Node → Bool → String → Parse Node) (n : Node) : Parse Node := do
  next
  let awaitAt ← if ← eatWordIf (← get).allowsAwait "await" then some <$> lastStart else pure none
  pushLabel loopLabel
  enterScope {}
  expect .parenL
  if ← at_ .semi then
    if let some pos := awaitAt then unexpectedAt pos
    forFrom n none
  else
    let isLet ← isLet false
    if isLet || (← atKeyword .varK) || (← atKeyword .constK) then
      let init ← startNode
      let word := (← value).wordD
      let kind := if isLet then "let" else word
      next
      let init ← finish (← variableList init true kind) .variableDeclaration
      forAfterVariables n init awaitAt
    else forExpression n awaitAt

/-- A test in parentheses. -/
def parenExpression : Parse Node := do
  expect .parenL
  let n ← expression
  expect .parenR
  return n

/-- The body of a loop. -/
def loopBody : Parse Node := do
  pushLabel loopLabel
  let body ← statement true
  popLabel
  return body

def doStatement (n : Node) : Parse Node := do
  next
  let n := n.set "body" (.node (← loopBody))
  expect (.keyword .whileK)
  let n := n.set "test" (.node (← parenExpression))
  discard <| eat .semi
  finish n .doWhileStatement

def whileStatement (n : Node) : Parse Node := do
  next
  let n := n.set "test" (.node (← parenExpression))
  finish (n.set "body" (.node (← loopBody))) .whileStatement

/-! ### Branches -/

def ifStatement (n : Node) : Parse Node := do
  next
  let n := n.set "test" (.node (← parenExpression))
  let n := n.set "consequent" (.node (← statement true))
  let alternate ← if ← eatKeyword .elseK then some <$> statement true else pure none
  finish (n.set "alternate" (.ofOption alternate)) .ifStatement

/-- The label of a case, after which its statements come. -/
def caseHead (sawDefault : Bool) : Parse (Node × Bool) := do
  let n := (← startNode).set "consequent" (.list [])
  let isCase ← atKeyword .caseK
  next
  if isCase then
    let n := n.set "test" (.node (← expression))
    expect .colon
    return (n, sawDefault)
  else
    if sawDefault then complain (← lastStart) .multipleDefaults
    expect .colon
    return (n.set "test" .null, true)

/-- A case with its statements. -/
def finishCase (n : Node) (items : Array Node) : Parse Node :=
  finish (n.set "consequent" (.nodes items.toList)) .switchCase

/-- The cases of a `switch` up to its closing brace. -/
def switchCases : Parse (List Node) := do
  let mut done : Array Node := #[]
  let mut current : Option Node := none
  let mut items : Array Node := #[]
  let mut sawDefault := false
  for _ in [0 : ← steps] do
    if ← at_ .braceR then break
    if (← atKeyword .caseK) || (← atKeyword .defaultK) then
      if let some n := current then done := done.push (← finishCase n items)
      let (n, saw) ← caseHead sawDefault
      current := some n
      items := #[]
      sawDefault := saw
    else
      if current.isNone then unexpected
      items := items.push (← statement)
  exitScope
  if let some n := current then done := done.push (← finishCase n items)
  return done.toList

def switchStatement (n : Node) : Parse Node := do
  next
  let n := n.set "discriminant" (.node (← parenExpression))
  expect .braceL
  pushLabel ⟨none, .switch, 0⟩
  enterScope {}
  let cases ← switchCases
  next
  popLabel
  finish (n.set "cases" (.nodes cases)) .switchStatement

/-! ### Leaving and failing -/

def returnStatement (n : Node) : Parse Node := do
  unless (← get).inFunction do raise n.start .returnOutsideFunction
  next
  if (← eat .semi) || (← canEndStatement) then finish (n.set "argument" .null) .returnStatement
  else
    let n := n.set "argument" (.node (← expression))
    semicolon
    finish n .returnStatement

def throwStatement (n : Node) : Parse Node := do
  next
  if ← newlineBefore then raise (← lastStop) .newlineAfterThrow
  let n := n.set "argument" (.node (← expression))
  semicolon
  finish n .throwStatement

/-- The parameter of a `catch` after its parenthesis; its scope is opened. -/
def plainCatchParameter : Parse Node := do
  let p ← bindingAtom
  let simple := p.is .identifier
  enterScope { simpleCatch := simple }
  checkPattern p (if simple then .catchParameter else .lexical)
  expect .parenR
  return p

/-- The `catch` of a `try`, with `parameter` for what stands in its parentheses. -/
def catchClause (parameter : Parse Node) : Parse Node := do
  let n ← startNode
  next
  let param ←
    if ← eat .parenL then some <$> parameter
    else do
      enterScope {}
      pure none
  let n := n.set "param" (.ofOption param)
  let n := n.set "body" (.node (← block false (← startNode)))
  exitScope
  finish n .catchClause

def tryStatement (parameter : Parse Node) (n : Node) : Parse Node := do
  next
  let n := n.set "block" (.node (← block true (← startNode)))
  let handler ← if ← atKeyword .catchK then some <$> catchClause parameter else pure none
  let finalizer ← if ← eatKeyword .finallyK then some <$> block true (← startNode) else pure none
  if handler.isNone && finalizer.isNone then raise n.start .missingCatch
  finish ((n.set "handler" (.ofOption handler)).set "finalizer" (.ofOption finalizer)) .tryStatement

/-! ### Simple statements -/

/-- The current token, and a semicolon after it, as a statement. -/
def wordStatement (n : Node) (k : NodeKind) : Parse Node := do
  next
  semicolon
  finish n k

def emptyStatement (n : Node) : Parse Node := do
  next
  finish n .emptyStatement

def expressionStatement (n e : Node) : Parse Node := do
  let n := n.set "expression" (.node e)
  semicolon
  finish n .expressionStatement

/-- A declaration of variables at its keyword. -/
def plainVariableStatement (n : Node) (kind : String) : Parse Node := do
  next
  let n ← plainVariables n false kind
  semicolon
  finish n .variableDeclaration

/-- A declared function at its keyword, or at `async`. -/
def functionStatement (n : Node) (nested isAsync : Bool) : Parse Node := do
  next
  function n .declaration nested isAsync

/-- An expression or a labelled statement. -/
def plainOpenStatement (n : Node) : Parse Node := do
  let r ← reader
  let e ← expression
  if ← eatIf (r.kind == .name && e.is .identifier) .colon then labeledStatement n e r.value.wordD
  else expressionStatement n e

/-- A declaration, in a place that allows one. -/
def onlyUnnested (nested : Bool) : Parse Unit := do if nested then unexpected

/-- The import declaration at the current token is an expression instead. -/
def isImportExpression : Parse Bool := do
  let c ← unitAfter
  return c == 0x28 || c == 0x2E

/-- The statements of a grammar that differ between dialects. -/
structure StatementRules where
  /-- The variables in the head of a `for`, with the word that declares them. -/
  variableList : Node → Bool → String → Parse Node
  variableStatement : Node → String → Parse Node
  catchParameter : Parse Node
  openStatement : Node → Parse Node
  importDeclaration : Node → Parse Node
  exportDeclaration : Node → Parse Node

/-- An import or export declaration, which stands at the top level only. -/
def moduleStatement (rules : StatementRules) (n : Node) (k : Keyword) (topLevel : Bool) : Parse Node := do
  if k == .importK && (← isImportExpression) then expressionStatement n (← expression)
  else
    unless topLevel do raise (← start) .notTopLevel
    if k == .importK then rules.importDeclaration n else rules.exportDeclaration n

/-- A statement; `nested` for the body of another one. -/
def statementWith (rules : StatementRules) (nested topLevel : Bool) : Parse Node := do
  let n ← startNode
  if ← isLet nested then
    onlyUnnested nested
    rules.variableStatement n "let"
  else
    match ← kind with
    | .keyword .breakK => jumpStatement .breakK n
    | .keyword .continueK => jumpStatement .continueK n
    | .keyword .debuggerK => wordStatement n .debuggerStatement
    | .keyword .doK => doStatement n
    | .keyword .forK => forStatement rules.variableList n
    | .keyword .functionK =>
      onlyUnnested nested
      functionStatement n nested false
    | .keyword .classK =>
      onlyUnnested nested
      classNode n .declaration
    | .keyword .ifK => ifStatement n
    | .keyword .returnK => returnStatement n
    | .keyword .switchK => switchStatement n
    | .keyword .throwK => throwStatement n
    | .keyword .tryK => tryStatement rules.catchParameter n
    | .keyword .constK =>
      onlyUnnested nested
      rules.variableStatement n "const"
    | .keyword .varK => rules.variableStatement n "var"
    | .keyword .whileK => whileStatement n
    | .keyword .withK => raise n.start .withInStrictMode
    | .braceL => block true n
    | .semi => emptyStatement n
    | .keyword .importK => moduleStatement rules n .importK topLevel
    | .keyword .exportK => moduleStatement rules n .exportK topLevel
    | _ =>
      if ← isAsyncFunction then
        onlyUnnested nested
        next
        functionStatement n nested true
      else rules.openStatement n

end EcmaModule.Grammar.Parse
