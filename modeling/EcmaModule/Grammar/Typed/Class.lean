import EcmaModule.Grammar.Typed.Expression

/-! Classes of typed sources: modifiers, index signatures, members without a body, and
decorated members. -/
namespace EcmaModule.Grammar.Parse

variable [Descent]

/-! ### Checks -/

/-- What a message calls the member. -/
def memberLabel (n : Node) : Parse Text := do
  match n.child? "key" with
  | none => return []
  | some key =>
    if key.is .identifier && !n.isTrue "computed" then return Text.ofString (key.name?.getD "")
    else
      let text := (← source).slice key.start key.stop
      return Text.ofString "[" ++ text ++ Text.ofString "]"

/-- An index signature of a class has few modifiers. -/
def checkIndexSignature (n : Node) : Parse Unit := do
  if n.isTrue "abstract" then refuse n.start (.indexModifier "abstract")
  if let some w := n.word? "accessibility" then refuse n.start (.indexAccessibility w)
  if n.isTrue "declare" then refuse n.start (.indexModifier "declare")
  if n.isTrue "override" then refuse n.start .indexOverride

/-- What the modifiers of a member need of its class. -/
def checkMemberModifiers (n : Node) (derived : Bool) : Parse Unit := do
  if n.isTrue "abstract" && !(← types).inAbstractClass then refuse n.start .abstractOutsideClass
  if n.isTrue "override" && !derived then refuse n.start .overrideWithoutSuperclass

/-! ### Methods -/

/-- The mark of an optional member, and what a method cannot be. -/
def setOptionalMember (n : Node) : Parse Node := do
  let n ← if ← eat .question then pure (n.set "optional" (.bool true)) else pure n
  if ← at_ .parenL then
    if n.isTrue "readonly" then refuse n.start .readonlyClassMethod
    if n.isTrue "declare" then refuse n.start .declaredMethod
  return n

/-- The type parameters of a method. -/
def setMethodParameters (n : Node) : Parse Node := do
  let kind := (n.word? "kind").getD ""
  let params ← if ← atLess then some <$> typeParameters [.constM] else pure none
  if let some p := params then
    if kind == "constructor" then refuse p.start .constructorTypeParameters
  if n.isTrue "declare" && (kind == "get" || kind == "set") then refuse n.start (.declaredAccessor kind)
  return setOption n "typeParameters" params

/-- The method after its name. -/
def typedClassMethod (n : Node) (generator isAsync superCall : Bool) : Parse Node := do
  let n ← setMethodParameters n
  checkMethodName n generator isAsync
  let isConstructor := n.word? "kind" == some "constructor"
  let value ← methodWith isConstructor (some .tsDeclareMethod) generator isAsync superCall
  if n.isTrue "abstract" && value.has "body" then refuse n.start (.abstractMethodBody (← memberLabel n))
  let value ← finish value .functionExpression
  checkMemberAccessor (n.word? "kind") value
  finish (n.set "value" (.node value)) .methodDefinition

/-! ### Fields -/

/-- The marks and the type of a field after its name. -/
def setFieldType (n : Node) : Parse Node := do
  let n ←
    if n.isTrue "optional" then pure n
    else if (← value).isWord "!" then do
      if ← eat .bang then pure (n.set "definite" (.bool true)) else pure n
    else if ← eat .question then pure (n.set "optional" (.bool true))
    else pure n
  setColonType n

/-- What a private field cannot be. -/
def checkPrivateField (n : Node) : Parse Unit := do
  if n.isTrue "abstract" then refuse n.start .privateAbstract
  if let some w := n.word? "accessibility" then refuse n.start (.privateAccessibility w)

/-- Whether the value at the current token is allowed. -/
def checkFieldValue (n : Node) : Parse Unit := do
  if ← at_ .eq then
    let pos ← start
    let isConstant := n.isTrue "readonly" && !n.has "typeAnnotation"
    if (← types).ambient && !isConstant then refuse pos .ambientValue
    if n.isTrue "abstract" then refuse pos (.abstractFieldValue (← memberLabel n))

def typedClassField (n : Node) : Parse Node := do
  let isPrivate := (n.child? "key").elim false fun k => k.is .privateIdentifier
  if isPrivate then
    checkPrivateField n
    plainClassField (← setFieldType n)
  else
    let n ← setFieldType n
    checkFieldValue n
    plainClassField n

/-! ### Members -/

/-- A member that is a method or a field, once its marks are read. -/
def methodOrField (n : Node) (m : MemberMarks) (derived : Bool) : Parse Node := do
  let n ←
    match m.name with
    | some w => memberNamedByLast n w
    | none => memberName n
  let n ← setOptionalMember n
  if (← at_ .parenL) || (← atLess) || m.kind != "method" || m.generator || m.isAsync then
    let isConstructor := !m.isStatic && isKeyNamed n "constructor"
    if isConstructor && m.kind != "method" then raise (keyStart n) .accessorConstructor
    let n := n.set "kind" (.word (if isConstructor then "constructor" else m.kind))
    typedClassMethod n m.generator m.isAsync (isConstructor && derived)
  else typedClassField n

/-- A member after its modifiers. -/
def modifiedMember (n : Node) (derived : Bool) : Parse Node := do
  if ← atStaticBlock then
    next
    next
    unless n.fields.isEmpty do refuse (← start) .modifiedStaticBlock
    return ← staticBlock n
  if let some i ← indexSignature? n then
    checkIndexSignature i
    return i
  checkMemberModifiers n derived
  let isStatic := n.isTrue "static"
  let n := n.set "static" (.bool isStatic)
  let mut m : MemberMarks := { isStatic := isStatic }
  m ← asyncMark m
  m ← starMark m
  m ← accessorMark m
  methodOrField n m derived

/-- A member of a class, or none for a lone semicolon. -/
def typedClassElement (derived : Bool) : Parse (Option Node) := do
  if ← eat .semi then return none
  let n ← modifiers (← startNode) Modifier.ofMember true
  let member := modifiedMember n derived
  return some (← if n.isTrue "declare" then inAmbient member else member)

/-- A member with its decorators. -/
def decoratedElement (derived : Bool) : Parse (Option Node) := do
  let ds ← decorators
  if (← at_ .braceR) && !ds.isEmpty then
    next
    refuse (← start) .decoratorWithoutMember
  match ← typedClassElement derived with
  | none =>
    unless ds.isEmpty do broken "Cannot set properties of null (setting 'decorators')"
    return none
  | some n => return some (startingWith (setDecorators n ds) ds)

/-! ### Classes -/

/-- Constructors with a body come once, and undecorated. -/
def checkConstructor (n : Node) (sawConstructor : Bool) : Parse Unit := do
  if sawConstructor then complain n.start .duplicateConstructor
  if n.has "decorators" then refuse n.start .decoratedConstructor

/-- The member is a constructor with a body. -/
def isFullConstructor (n : Node) : Bool :=
  isConstructor n && (n.child? "value").elim false fun v => v.is .functionExpression

/-- The members of a class up to its brace, which is the current token then. -/
def typedMembers (derived : Bool) : Parse (List Node) := do
  let mut items : Array Node := #[]
  let mut sawConstructor := false
  for _ in [0 : ← steps] do
    if ← at_ .braceR then return items.toList
    if let some n ← decoratedElement derived then
      items := items.push n
      if isFullConstructor n then
        checkConstructor n sawConstructor
        sawConstructor := true
      else if let some key := n.child? "key" then
        if key.is .privateIdentifier then declarePrivate n key
  throw .exhausted

def typedClassBody (derived : Bool) : Parse Node := do
  enterClassBody
  let body ← startNode
  expect .braceL
  let items ← typedMembers derived
  next
  let body ← finish (body.set "body" (.nodes items)) .classBody
  exitClassBody
  return body

/-- The name of a class and its type parameters. An expression need not have a name before
`implements`. -/
def setClassName (n : Node) (naming : Naming) : Parse Node := do
  if naming == .expression && (← atWord "implements") then return n
  let n := n.set "id" (.ofOption (← plainClassName naming))
  setTypeParameters n [.inM, .outM, .constM]

/-- What a class extends or implements, or an interface extends. -/
def heritage (word : String) : Parse (List Node) := do
  let pos ← start
  let one : Parse Node := do
    let n := (← startNode).set "expression" (.node (← entityName))
    let n ← if ← atLess then pure (n.set "typeParameters" (.node (← typeArguments))) else pure n
    finish n .tsExpressionWithTypeArguments
  let (items, _) ← commaList one (at_ .braceL)
  if items.isEmpty then refuse pos (.emptyHeritage word)
  return items

/-- The superclass with its type arguments, and what the class implements. -/
def setSuperclass (n : Node) : Parse (Node × Bool) := do
  let superClass ← if ← eatKeyword .extendsK then some <$> leftHand else pure none
  let n := n.set "superClass" (.ofOption superClass)
  let n ←
    if ← (pure superClass.isSome) <&&> mayOpenArguments then
      pure (n.set "superTypeParameters" (.node (← expressionTypeArguments)))
    else pure n
  let n ← if ← eatWord "implements" then pure (n.set "implements" (.nodes (← heritage "implements"))) else pure n
  return (n, superClass.isSome)

def typedClass (n : Node) (naming : Naming) : Parse Node := inClass (n.isTrue "abstract") do
  next
  let n ← takeDecorators n
  let n ← setClassName n naming
  let (n, derived) ← setSuperclass n
  let n := n.set "body" (.node (← typedClassBody derived))
  finish n (if naming == .expression then .classExpression else .classDeclaration)

end EcmaModule.Grammar.Parse
