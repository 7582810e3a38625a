import EcmaModule.Grammar.Rule.Object
import EcmaModule.Grammar.Typed.Modifier

/-! Types.

From loosest to tightest: conditional types, functions, unions, intersections, operators
before a type, brackets after it, and atoms. -/
namespace EcmaModule.Grammar.Parse

variable [Descent]

def refuse {α : Type} (pos : Nat) (c : TypeComplaint) : Parse α := raise pos (.typed c)

def type : Parse Node := descend .type

/-! ### Types after a mark -/

/-- A type, after a colon if there is to be one, that annotates something. -/
def typeMark (n : Node) (afterColon : Bool) : Parse Node := do
  let t ← inType do
    if afterColon then expect .colon
    type
  finish (n.set "typeAnnotation" (.node t)) .tsAnnotationNode

/-- A type after a colon. -/
def colonType : Parse Node := do typeMark (← startNode) true

def colonType? : Parse (Option Node) := do if ← at_ .colon then return some (← colonType) else return none

/-- Sets a field if there is something to be set. -/
def setOption (n : Node) (key : String) (value : Option Node) : Node := value.elim n fun v => n.set key (.node v)

/-- Sets the type after a colon, if there is one. -/
def setColonType (n : Node) : Parse Node := return setOption n "typeAnnotation" (← colonType?)

/-- A type after this token, if it is the current one. -/
def typeAfter? (k : TokenKind) : Parse (Option Node) := do
  if ← at_ k then
    inType do
      next
      return some (← type)
  else return none

/-- The node ends where the token before the current one does. -/
def endHere (n : Node) : Parse Node := do
  let r ← reader
  return n.endingAt r.lastStop r.lastStopLoc

/-! ### Lists -/

/-- Elements separated by commas up to where the list ends, and the last comma if nothing
follows it. -/
def commaList (element : Parse Node) (ends : Parse Bool) : Parse (List Node × Option Nat) := do
  let mut items : Array Node := #[]
  let mut comma : Option Nat := none
  for _ in [0 : ← steps] do
    if ← ends then return (items.toList, comma)
    comma := none
    items := items.push (← element)
    if ← eat .comma then comma := some (← lastStart)
    else if ← ends then return (items.toList, none)
    else unexpected
  throw .exhausted

def typeArguments : Parse Node := do
  let n ← startNode
  let (params, _) ← inType do
    expect .relational
    commaList type atGreater
  if params.isEmpty then refuse (← start) .emptyArguments
  setExprAllowed false
  expect .relational
  finish (n.set "params" (.nodes params)) .tsTypeParameterInstantiation

/-- Type arguments on the line of what takes them. -/
def setTypeArguments (n : Node) : Parse Node := do
  if !(← newlineBefore) && (← atLess) then return n.set "typeArguments" (.node (← typeArguments))
  else return n

def typeParameter (allowed : List Modifier) : Parse Node := do
  let n ← modifiers (← startNode) allowed
  let n := n.set "name" (.word ((← identifier).name?.getD ""))
  let n := setOption n "constraint" (← typeAfter? (.keyword .extendsK))
  finish (setOption n "default" (← typeAfter? .eq)) .tsTypeParameter

/-- Type parameters, with these modifiers. -/
def typeParameters (allowed : List Modifier) : Parse Node := do
  let n ← startNode
  unless ← atLess do unexpected
  next
  let (params, comma) ← commaList (typeParameter allowed) atGreater
  expect .relational
  if params.isEmpty then refuse (← start) .emptyParameters
  let n := n.set "params" (.nodes params)
  let n :=
    match comma with
    | some pos => n.set "extra" (.value (.object [("trailingComma", .number (.ofNat pos))]))
    | none => n
  finish n .tsTypeParameterDeclaration

/-- Type parameters, if there are some. -/
def setTypeParameters (n : Node) (allowed : List Modifier) : Parse Node := do
  if ← atLess then return n.set "typeParameters" (.node (← typeParameters allowed)) else return n

/-! ### Names -/

/-- A name, perhaps with names of members after dots. -/
def entityName (anyWord : Bool := true) : Parse Node := do
  let name := if anyWord then anyName else identifier
  let mut n ← name
  for _ in [0 : ← steps] do
    unless ← eat .dot do return n
    let q := (nodeAtStartOf n).set "left" (.node n)
    n ← finish (q.set "right" (.node (← name))) .tsQualifiedName
  return n

def typeReference : Parse Node := do
  let n := (← startNode).set "typeName" (.node (← entityName))
  finish (← setTypeArguments n) .tsTypeReference

/-- What imports a module as a type. -/
def importType : Parse Node := do
  let n ← startNode
  expect (.keyword .importK)
  expect .parenL
  unless ← at_ .string do refuse (← start) .importArgument
  let n := n.set "argument" (.node (← atom))
  expect .parenR
  let n ← if ← eat .dot then pure (n.set "qualifier" (.node (← entityName))) else pure n
  let n ← if ← atLess then pure (n.set "typeArguments" (.node (← typeArguments))) else pure n
  finish n .tsImportType

/-- The type of a value. -/
def typeQuery : Parse Node := do
  let n ← startNode
  expect (.keyword .typeofK)
  let n := n.set "exprName" (.node (← if ← atKeyword .importK then importType else entityName))
  finish (← setTypeArguments n) .tsTypeQuery

/-! ### Predicates -/

/-- The word `is` after the name of what a predicate is about. -/
def atIs : Parse Bool := atWord "is" <&&> (return !(← newlineBefore))

/-- The type `this`, or a predicate about it. -/
def thisType : Parse Node := do
  let n ← startNode
  next
  let this ← finish n .tsThisType
  unless ← atIs do return this
  next
  let n := (nodeAtStartOf this).set "parameterName" (.node this)
  let n := n.set "typeAnnotation" (.node (← typeMark (← startNode) false))
  finish (n.set "asserts" (.bool false)) .tsTypePredicate

/-- The word `asserts` before a name. -/
def assertsMark : Parse Bool := do
  let r ← reader
  unless r.kind == .typeWord .assertsW do return false
  next
  unless (← atIdentifier) || (← atKeyword .thisK) do return false
  if r.escaped then refuse (← lastStart) .escapedAsserts
  return true

/-- The name a predicate is about, and the word `is`. -/
def predicateName? : Parse (Option Node) := do
  let id ← identifier
  if ← atIs then
    next
    return some id
  else return none

/-- An assertion about `this`. -/
def assertsThis (n : Node) : Parse Node := do
  let p ← thisType
  if p.is .tsThisType then
    finish (((n.set "parameterName" (.node p)).set "asserts" (.bool true)).set "typeAnnotation" .null)
      .tsTypePredicate
  else return (p.startingAt n.start n.startLoc).set "asserts" (.bool true)

/-- The type of a result after `mark`, perhaps a predicate. -/
def resultType (mark : TokenKind) : Parse Node := inType do
  let t ← startNode
  expect mark
  let n ← startNode
  let asserts ← perhapsIf assertsMark
  if asserts && (← atKeyword .thisK) then
    return ← finish (t.set "typeAnnotation" (.node (← assertsThis n))) .tsAnnotationNode
  let name ← if ← atIdentifier then perhaps predicateName? else pure none
  match name with
  | none =>
    unless asserts do return ← typeMark t false
    let n := ((n.set "parameterName" (.node (← identifier))).set "asserts" (.bool true)).set "typeAnnotation" .null
    finish (t.set "typeAnnotation" (.node (← finish n .tsTypePredicate))) .tsAnnotationNode
  | some id =>
    let type ← typeMark (← startNode) false
    let n := ((n.set "parameterName" (.node id)).set "typeAnnotation" (.node type)).set "asserts" (.bool asserts)
    finish (t.set "typeAnnotation" (.node (← finish n .tsTypePredicate))) .tsAnnotationNode

/-! ### Signatures -/

/-- The parameters of a signature after the parenthesis. -/
def signatureParameters : Parse (List Node) := do
  let items ← bindingList .parenR true
  items.mapM fun item => do
    match item with
    | none => broken "Cannot read properties of null (reading 'type')"
    | some p =>
      unless p.is .identifier || p.is .restElement || p.is .objectPattern || p.is .arrayPattern do
        refuse p.start (.signatureParameter p.kind.name)
      return p

/-- Type parameters, parameters and the type of the result after `mark`. -/
def signature (n : Node) (mark : TokenKind) : Parse Node := do
  let n ← setTypeParameters n [.constM]
  expect .parenL
  let n := n.set "parameters" (.nodes (← signatureParameters))
  if mark == .arrow || (← at_ mark) then return n.set "typeAnnotation" (.node (← resultType mark)) else return n

def functionType : Parse Node := do
  finish (← withConditional true (signature (← startNode) .arrow)) .tsFunctionType

/-- The type of a constructor, at `new` or at `abstract`. -/
def constructorType (isAbstract : Bool) : Parse Node := do
  let n := (← startNode).set "abstract" (.bool isAbstract)
  if isAbstract then next
  next
  finish (← withConditional true (signature n .arrow)) .tsConstructorType

/-! ### Members -/

/-- The end of a type member: a comma, a semicolon or the end of a line. -/
def memberEnd : Parse Unit := do
  unless ← eat .comma <||> endsStatement do expect .semi

def signatureMember (n : Node) (k : NodeKind) : Parse Node := do
  let n ← signature n .colon
  memberEnd
  finish n k

/-- An index signature starts at the current bracket. -/
def atIndexSignature : Parse Bool := at_ .bracketL <&&> lookingAhead do
  next
  if ← atIdentifier then
    next
    at_ .colon
  else return false

/-- An index signature, if one starts here. -/
def indexSignature? (n : Node) : Parse (Option Node) := do
  unless ← atIndexSignature do return none
  expect .bracketL
  let id ← identifier
  let id ← endHere (id.set "typeAnnotation" (.node (← colonType)))
  expect .bracketR
  let n ← setColonType (n.set "parameters" (.nodes [id]))
  memberEnd
  return some (← finish n .tsIndexSignature)

/-- The parameter `this`. -/
def isThisParameter (n : Node) : Bool := n.isNamed "this"

/-- Checks the parameters of an accessor of a type. -/
def checkSignatureAccessor (n : Node) : Parse Unit := do
  let params := n.children "parameters"
  let pos ← start
  if n.word? "kind" == some "get" then
    unless params.isEmpty do refuse pos .getterParameters
  else
    match params with
    | [p] =>
      if isThisParameter p then refuse pos .accessorThis
      if p.is .identifier && p.isTrue "optional" then refuse pos .setterOptional
      if p.is .restElement then refuse pos .setterRest
    | _ => refuse pos .setterParameters
    if let some t := n.child? "typeAnnotation" then refuse t.start .setterReturn

/-- A property or a method of a type after its name. -/
def namedMember (n : Node) (isReadonly : Bool) : Parse Node := do
  let n ← if ← eat .question then pure (n.set "optional" (.bool true)) else pure n
  if (← at_ .parenL) || (← atLess) then
    if isReadonly then refuse n.start .readonlyMethod
    if n.has "kind" && (← atLess) then refuse (← start) .accessorTypeParameters
    let n ← signature n .colon
    memberEnd
    if n.has "kind" then
      checkSignatureAccessor n
      finish n .tsMethodSignature
    else finish (n.set "kind" (.word "method")) .tsMethodSignature
  else
    let n ← setColonType n
    memberEnd
    finish n .tsPropertySignature

/-- A member that starts with `new`. -/
def newMember (n : Node) : Parse Node := do
  let id ← startNode
  next
  if (← at_ .parenL) || (← atLess) then signatureMember n .tsConstructSignatureDeclaration
  else
    let key ← finish (id.set "name" (.word "new")) .identifier
    namedMember (n.set "key" (.node key)) false

/-- The name of a member, with the word that makes it an accessor. -/
def typeMemberName (n : Node) : Parse Node := do
  let n ← propertyName n
  if (← pure (isPlainKey n "get" || isPlainKey n "set")) && (← canFollowModifier) then
    let kind := ((n.child? "key").bind Node.name?).getD ""
    propertyName (n.set "kind" (.word kind))
  else return n

def typeMember : Parse Node := do
  let n ← startNode
  if (← at_ .parenL) || (← atLess) then signatureMember n .tsCallSignatureDeclaration
  else if ← atKeyword .newK then newMember n
  else
    let n ← modifiers n [.readonlyM]
    match ← indexSignature? n with
    | some i => return i
    | none => namedMember (← typeMemberName n) (n.isTrue "readonly")

/-- The members of a type in braces. -/
def typeMembers : Parse (List Node) := do
  expect .braceL
  let mut items : Array Node := #[]
  for _ in [0 : ← steps] do
    if ← eat .braceR then return items.toList
    items := items.push (← typeMember)
  throw .exhausted

/-! ### Mapped types -/

/-- The braces at the current token hold a mapped type. -/
def atMappedType : Parse Bool := lookingAhead do
  next
  if ← eat .plusMin then return ← atTypeWord .readonlyW
  if ← atTypeWord .readonlyW then next
  unless ← at_ .bracketL do return false
  next
  unless ← atIdentifier do return false
  next
  atKeyword .inK

/-- A mark that a mapped type adds or takes away, perhaps after a sign. -/
def mappedMark (n : Node) (key : String) (eatMark : Parse Bool) : Parse Node := do
  if ← at_ .plusMin then
    let sign := (← value).wordD
    next
    unless ← eatMark do unexpected
    return n.set key (.word sign)
  else if ← eatMark then return n.set key (.bool true)
  else return n

/-- The parameter of a mapped type and what it runs over. -/
def mappedParameter : Parse Node := do
  let n := (← startNode).set "name" (.word ((← identifier).name?.getD ""))
  let constraint ← inType do
    expect (.keyword .inK)
    type
  finish (n.set "constraint" (.node constraint)) .tsTypeParameter

def mappedType : Parse Node := do
  let n ← startNode
  expect .braceL
  let n ← mappedMark n "readonly" (eatTypeWord .readonlyW)
  expect .bracketL
  let n := n.set "typeParameter" (.node (← mappedParameter))
  let n := n.set "nameType" (.ofOption (← if ← eatWord "as" then some <$> type else pure none))
  expect .bracketR
  let n ← mappedMark n "optional" (eat .question)
  let n := setOption n "typeAnnotation" (← typeAfter? .colon)
  semicolon
  expect .braceR
  finish n .tsMappedType

/-! ### Tuples -/

/-- The name of a tuple's element: a type that is a name only. -/
def isTupleLabel (t : Node) : Bool :=
  t.is .tsTypeReference && !t.has "typeArguments" && (t.child? "typeName").elim false fun n => n.is .identifier

/-- An element of a tuple without its dots. -/
def tupleItem : Parse Node := do
  let t ← type
  let optional ← eat .question
  if ← eat .colon then
    unless isTupleLabel t do refuse t.start .labelNotName
    let n := (nodeAtStartOf t).set "label" (.ofOption (t.child? "typeName"))
    let n := n.set "optional" (.bool optional)
    finish (n.set "elementType" (.node (← type))) .tsNamedTupleMember
  else if optional then finish ((nodeAtStartOf t).set "typeAnnotation" (.node t)) .tsOptionalType
  else return t

def tupleElement : Parse Node := do
  let n ← startNode
  if ← eat .ellipsis then finish (n.set "typeAnnotation" (.node (← tupleItem))) .tsRestType else tupleItem

/-- The element may be left out. -/
def isOptionalElement (n : Node) : Bool := n.is .tsOptionalType || (n.is .tsNamedTupleMember && n.isTrue "optional")

/-- No element that is required follows one that is not. -/
def checkTuple (items : List Node) : Parse Unit := do
  let mut sawOptional := false
  for n in items do
    if sawOptional && !n.is .tsRestType && !isOptionalElement n then refuse n.start .requiredAfterOptional
    sawOptional := sawOptional || isOptionalElement n

def tupleType : Parse Node := do
  let n ← startNode
  expect .bracketL
  let (items, _) ← commaList tupleElement (at_ .bracketR)
  expect .bracketR
  checkTuple items
  finish (n.set "elementTypes" (.nodes items)) .tsTupleType

/-! ### Atoms -/

def parenthesizedType : Parse Node := do
  let n ← startNode
  expect .parenL
  let n := n.set "typeAnnotation" (.node (← type))
  expect .parenR
  finish n .tsParenthesizedType

/-- A literal as a type. -/
def literalType (n : Node) (literal : Parse Node) : Parse Node := do
  finish (n.set "literal" (.node (← literal))) .tsLiteralType

/-- The type of a name that is a keyword where types are read. -/
def wordType? : String → Option NodeKind
  | "any" => some .tsAnyKeyword
  | "boolean" => some .tsBooleanKeyword
  | "bigint" => some .tsBigIntKeyword
  | "never" => some .tsNeverKeyword
  | "number" => some .tsNumberKeyword
  | "object" => some .tsObjectKeyword
  | "string" => some .tsStringKeyword
  | "symbol" => some .tsSymbolKeyword
  | "undefined" => some .tsUndefinedKeyword
  | "unknown" => some .tsUnknownKeyword
  | _ => none

/-- A name, or the keyword of a type. -/
def namedType (k : Option NodeKind) : Parse Node := do
  match k with
  | some k =>
    if (← unitAfter) == 0x2E then typeReference
    else
      let n ← startNode
      next
      finish n k
  | none => typeReference

/-- A number after a minus. -/
def negativeType : Parse Node := do
  let r ← reader
  unless r.value.isWord "-" do unexpected
  let n ← startNode
  unless (← ahead).kind == .num do unexpected
  literalType n (unary none false false .none)

def typeAtom : Parse Node := do
  match ← kind with
  | .string => literalType (← startNode) atom
  | .num => literalType (← startNode) atom
  | .keyword .trueK => literalType (← startNode) atom
  | .keyword .falseK => literalType (← startNode) atom
  | .plusMin => negativeType
  | .keyword .thisK => thisType
  | .keyword .typeofK => typeQuery
  | .keyword .importK => importType
  | .braceL =>
    if ← atMappedType then mappedType
    else
      let n ← startNode
      finish (n.set "members" (.nodes (← typeMembers))) .tsTypeLiteral
  | .bracketL => tupleType
  | .parenL => parenthesizedType
  | .backQuote => literalType (← startNode) (template false)
  | .dollarBraceL => literalType (← startNode) (template false)
  | .keyword .voidK => namedType (some .tsVoidKeyword)
  | .keyword .nullK => namedType (some .tsNullKeyword)
  | .name => namedType (wordType? (← value).wordD)
  | .typeWord _ => namedType (wordType? (← value).wordD)
  | _ => unexpected

/-! ### Operators -/

/-- A type with the brackets after it, on its line. -/
def bracketedType : Parse Node := do
  let mut t ← typeAtom
  for _ in [0 : ← steps] do
    if ← newlineBefore then return t
    unless ← eat .bracketL do return t
    let n := nodeAtStartOf t
    if ← eat .bracketR then t ← finish (n.set "elementType" (.node t)) .tsArrayType
    else
      let n := (n.set "objectType" (.node t)).set "indexType" (.node (← type))
      expect .bracketR
      t ← finish n .tsIndexedAccessType
  return t

/-- The type that an inferred one must extend, unless a question mark shows that it belongs
to a conditional type around. -/
def inferConstraint? : Parse (Option Node) := do
  if ← eatKeyword .extendsK then
    let t ← withConditional false type
    if (← types).noConditional || !(← at_ .question) then return some t else return none
  else return none

def inferType : Parse Node := do
  let n ← startNode
  expectWord "infer"
  let p := (← startNode).set "name" (.word ((← identifier).name?.getD ""))
  let p := setOption p "constraint" (← perhaps inferConstraint?)
  finish (n.set "typeParameter" (.node (← finish p .tsTypeParameter))) .tsInferType

/-- An operator before a type. -/
def operatorType : Parse Node := do
  let n ← startNode
  let op := (← value).wordD
  next
  let operand ← descend .typeOperand
  let n := (n.set "operator" (.word op)).set "typeAnnotation" (.node operand)
  let n ← finish n .tsTypeOperator
  return n

/-- A type with the operators before it. -/
def typeOperandRule : Parse Node := do
  let r ← reader
  match r.kind with
  | .typeWord w =>
    if w.isTypeOperator && !r.escaped then
      let n ← operatorType
      let allowed := (n.child? "typeAnnotation").elim false fun t => t.is .tsTupleType || t.is .tsArrayType
      if w == .readonlyW && !allowed then refuse n.start .readonlyOperand
      return n
    else withConditional true bracketedType
  | _ => if ← atWord "infer" then inferType else withConditional true bracketedType

/-- Types joined by an operator, which may also stand before the first. -/
def joinedTypes (one : Parse Node) (op : TokenKind) (k : NodeKind) : Parse Node := do
  let n ← startNode
  let leading ← eat op
  let mut items : Array Node := #[]
  for _ in [0 : ← steps] do
    items := items.push (← one)
    unless ← eat op do break
  match items.toList, leading with
  | [t], false => return t
  | ts, _ => finish (n.set "types" (.nodes ts)) k

def unionType : Parse Node :=
  joinedTypes (joinedTypes (descend .typeOperand) .bitAnd .tsIntersectionType) .bitOr .tsUnionType

/-! ### Functions and conditions -/

/-- Goes past the start of a parameter, if one stands here. -/
def skipParameter : Parse Bool := do
  match ← kind with
  | .keyword .thisK =>
    next
    return true
  | .braceL => succeeds (descend (.object true none))
  | .bracketL =>
    next
    succeeds (bindingList .bracketR true)
  | k =>
    if k.isIdentifier then
      next
      return true
    else return false

/-- What stands between parentheses can only be parameters. -/
def startsParameters : Parse Bool := do
  next
  if (← at_ .parenR) || (← at_ .ellipsis) then return true
  unless ← skipParameter do return false
  let k ← kind
  if k == .colon || k == .comma || k == .question || k == .eq then return true
  unless k == .parenR do return false
  next
  at_ .arrow

def atFunctionType : Parse Bool := atLess <||> (at_ .parenL <&&> lookingAhead startsParameters)

/-- The type of an abstract class's constructor starts here. -/
def atAbstractConstructor : Parse Bool :=
  atTypeWord .abstractW <&&> do return (← ahead).kind == TokenKind.keyword .newK

/-- A type that is no conditional one. -/
def unconditionalType : Parse Node := do
  if ← atFunctionType then functionType
  else if ← atKeyword .newK then constructorType false
  else if ← atAbstractConstructor then constructorType true
  else unionType

def typeRule : Parse Node := do
  let t ← unconditionalType
  if (← types).noConditional || (← newlineBefore) then return t
  unless ← eatKeyword .extendsK do return t
  let n := (nodeAtStartOf t).set "checkType" (.node t)
  let n := n.set "extendsType" (.node (← withConditional false unconditionalType))
  expect .question
  let n := n.set "trueType" (.node (← withConditional true type))
  expect .colon
  finish (n.set "falseType" (.node (← withConditional true type))) .tsConditionalType

end EcmaModule.Grammar.Parse
