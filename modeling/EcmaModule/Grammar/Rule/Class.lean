import EcmaModule.Grammar.Rule.Object

/-! Classes: their members and private names. -/
namespace EcmaModule.Grammar.Parse

variable [Descent]

/-! ### Private names -/

/-- The declaration of a private name that is one for `kind`, unless it clashes with the
one before. A getter and a setter of one side go together. -/
def joinPrivate? (declared : Option PrivateKind) (kind : PrivateKind) : Option PrivateKind :=
  match declared, kind with
  | none, k => some k
  | some (.getter a), .setter b => if a == b then some .whole else none
  | some (.setter a), .getter b => if a == b then some .whole else none
  | some _, _ => none

/-- How a member declares its private name. -/
def privateKind (n : Node) : PrivateKind :=
  if !n.is .methodDefinition then .whole
  else
    match n.word? "kind" with
    | some "get" => .getter (n.isTrue "static")
    | some "set" => .setter (n.isTrue "static")
    | _ => .whole

/-- Declares the private name of a member. -/
def declarePrivate (n key : Node) : Parse Unit := do
  let name := key.name?.getD ""
  match (← get).privateNames with
  | [] => return
  | names :: rest =>
    match joinPrivate? ((names.declared.find? fun d => d.1 == name).map (·.2)) (privateKind n) with
    | some k =>
      modify fun s => { s with privateNames := { names with declared := (name, k) :: names.declared } :: rest }
    | none => complain key.start (.redeclared ("#" ++ name))

def enterClassBody : Parse Unit := modify fun s => { s with privateNames := {} :: s.privateNames }

/-- Leaves a class body. A name it used but did not declare must be declared further out. -/
def exitClassBody : Parse Unit := do
  match (← get).privateNames with
  | [] => return
  | names :: rest =>
    let missing := names.used.reverse.filter fun u => !names.declared.any fun d => d.1 == u.1
    match rest with
    | outer :: more =>
      modify fun s => { s with privateNames := { outer with used := missing.reverse ++ outer.used } :: more }
    | [] =>
      modify fun s => { s with privateNames := [] }
      for (name, pos) in missing do
        complain pos (.privateUndeclared name)

/-! ### Members -/

/-- A member has this name, without brackets. -/
def isKeyNamed (n : Node) (name : String) : Bool :=
  !n.isTrue "computed" && (n.child? "key").elim false fun k =>
    k.isNamed name || (k.is .literal && k.word? "value" == some name)

/-- The name of a member can start here. -/
def startsMemberName : Parse Bool := return (← startsPropertyName) || (← at_ .privateId)

/-- Sets the name of a member. -/
def memberName (n : Node) : Parse Node := do
  let r ← reader
  if r.kind == .privateId then
    if r.value.isWord "constructor" then raise r.start .privateConstructor
    return (n.set "computed" (.bool false)).set "key" (.node (← privateName))
  else propertyName n

/-- Names a member by the word just read. -/
def memberNamedByLast (n : Node) (word : String) : Parse Node := do
  let key ← finish ((← startNodeAtLast).set "name" (.word word)) .identifier
  return (n.set "computed" (.bool false)).set "key" (.node key)

/-- Checks the name of a method against what it is. -/
def checkMethodName (n : Node) (generator isAsync : Bool) : Parse Unit := do
  if n.word? "kind" == some "constructor" then
    if generator then raise (keyStart n) .generatorConstructor
    if isAsync then raise (keyStart n) .asyncConstructor
  else if n.isTrue "static" && isKeyNamed n "prototype" then raise (keyStart n) .staticPrototypeMethod

/-- Checks the parameters of an accessor in a class. A setter without parameters makes the
grammar fail. -/
def checkMemberAccessor (kind : Option String) (value : Node) : Parse Unit := do
  let params := value.children "params"
  if kind == some "get" then
    unless params.isEmpty do complain value.start .getterParameters
  else if kind == some "set" then
    if params.length != 1 then complain value.start .setterParameters
    match params with
    | [] => broken "Cannot read properties of undefined (reading 'type')"
    | p :: _ => if p.is .restElement then complain p.start .setterRest

/-- A method of a class from its parameters on. -/
def plainClassMethod (n : Node) (generator isAsync superCall : Bool) : Parse Node := do
  checkMethodName n generator isAsync
  let value ← method generator isAsync superCall
  checkMemberAccessor (n.word? "kind") value
  finish (n.set "value" (.node value)) .methodDefinition

/-- Runs a step in the scope of a field's initializer. -/
def inFieldScope {α : Type} (step : Parse α) : Parse α := do
  enterScope { fieldInit := true, method := true }
  let result ← step
  exitScope
  return result

def checkFieldName (n : Node) : Parse Unit := do
  if isKeyNamed n "constructor" then raise (keyStart n) .constructorField
  else if n.isTrue "static" && isKeyNamed n "prototype" then raise (keyStart n) .staticPrototypeField

/-- The value of a field, if it has one. -/
def fieldValue : Parse (Option Node) := do
  if ← eat .eq then return some (← inFieldScope assign) else return none

def plainClassField (n : Node) : Parse Node := do
  checkFieldName n
  let n := n.set "value" (.ofOption (← fieldValue))
  semicolon
  finish n .propertyDefinition

/-- A static block after its brace. -/
def staticBlock (n : Node) : Parse Node := do
  let items ← withoutLabels do
    enterScope { staticBlock := true, method := true }
    let items ← statementsToBrace
    next
    exitScope
    return items
  finish (n.set "body" (.nodes items)) .staticBlock

/-- What the words before a member's name say of it. -/
structure MemberMarks where
  isStatic : Bool := false
  isAsync : Bool := false
  generator : Bool := false
  kind : String := "method"
  /-- The word that turned out to be the name. -/
  name : Option String := none

/-- The mark `async`, or a member of that name. -/
def asyncMark (m : MemberMarks) : Parse MemberMarks := do
  if ← eatWordIf m.name.isNone "async" then
    if ((← startsMemberName) || (← at_ .star)) && !(← canEndStatement) then return { m with isAsync := true }
    else return { m with name := some "async" }
  else return m

def starMark (m : MemberMarks) : Parse MemberMarks := do
  if ← eatIf m.name.isNone .star then return { m with generator := true } else return m

/-- The mark of an accessor, or a member of that name. -/
def accessorMark (m : MemberMarks) : Parse MemberMarks := do
  if m.name.isNone && !m.isAsync && !m.generator then
    let word := (← value).wordD
    if ← eatWord "get" <||> eatWord "set" then
      if ← startsMemberName then return { m with kind := word } else return { m with name := some word }
    else return m
  else return m

/-- A member that is a method or a field, once its marks are read. -/
def plainMember (n : Node) (m : MemberMarks) (derived : Bool) : Parse Node := do
  let n ←
    match m.name with
    | some w => memberNamedByLast n w
    | none => memberName n
  if (← at_ .parenL) || m.kind != "method" || m.generator || m.isAsync then
    let isConstructor := !m.isStatic && isKeyNamed n "constructor"
    if isConstructor && m.kind != "method" then raise (keyStart n) .accessorConstructor
    let n := n.set "kind" (.word (if isConstructor then "constructor" else m.kind))
    plainClassMethod n m.generator m.isAsync (isConstructor && derived)
  else plainClassField n

/-- A member of a class, or none for a lone semicolon. -/
def plainClassElement (derived : Bool) : Parse (Option Node) := do
  if ← eat .semi then return none
  let n ← startNode
  let mut m : MemberMarks := {}
  if ← eatWord "static" then
    if ← eat .braceL then return some (← staticBlock n)
    if (← startsMemberName) || (← at_ .star) then m := { m with isStatic := true }
    else m := { m with name := some "static" }
  let n := n.set "static" (.bool m.isStatic)
  m ← asyncMark m
  m ← starMark m
  m ← accessorMark m
  return some (← plainMember n m derived)

/-! ### Classes -/

def isConstructor (n : Node) : Bool := n.is .methodDefinition && n.word? "kind" == some "constructor"

/-- Checks a member against those before it. -/
def checkMember (n : Node) (sawConstructor : Bool) : Parse Unit := do
  if isConstructor n then
    if sawConstructor then complain n.start .duplicateConstructor
  else if let some key := n.child? "key" then
    if key.is .privateIdentifier then declarePrivate n key

/-- The members of a class up to its brace, which is the current token then. -/
def members (element : Parse (Option Node)) : Parse (List Node) := do
  let mut items : Array Node := #[]
  let mut sawConstructor := false
  for _ in [0 : ← steps] do
    if ← at_ .braceR then return items.toList
    if let some m := ← element then
      items := items.push m
      checkMember m sawConstructor
      sawConstructor := sawConstructor || isConstructor m
  throw .exhausted

/-- The body of a class; `derived` for a class with a superclass. -/
def plainClassBody (derived : Bool) : Parse Node := do
  enterClassBody
  let body ← startNode
  expect .braceL
  let items ← members (plainClassElement derived)
  next
  let body ← finish (body.set "body" (.nodes items)) .classBody
  exitClassBody
  return body

/-- The name of a class. -/
def plainClassName (naming : Naming) : Parse (Option Node) := do
  if ← at_ .name then
    let id ← identifier
    if naming != .expression then checkSimple id .lexical
    return some id
  else
    if naming == .declaration then unexpected
    return none

def plainClass (n : Node) (naming : Naming) : Parse Node := do
  next
  let n := n.set "id" (.ofOption (← plainClassName naming))
  let superClass ← if ← eatKeyword .extendsK then some <$> leftHand else pure none
  let n := n.set "superClass" (.ofOption superClass)
  let n := n.set "body" (.node (← plainClassBody superClass.isSome))
  finish n (if naming == .expression then .classExpression else .classDeclaration)

end EcmaModule.Grammar.Parse
