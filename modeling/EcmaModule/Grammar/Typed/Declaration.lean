import EcmaModule.Grammar.Rule.Statement
import EcmaModule.Grammar.Typed.Class

/-! Declarations of typed sources: enumerations, interfaces, aliases, namespaces, and what
is only announced. -/
namespace EcmaModule.Grammar.Parse

variable [Descent]

/-! ### Variables -/

/-- The name or pattern of a variable, with its type. -/
def typedVariableId (kind : String) (n : Node) : Parse Node := do
  let n ← plainVariableId kind n
  let isName := (n.child? "id").elim false fun id => id.is .identifier
  let bang := isName && !(← newlineBefore) && (← value).isWord "!"
  let n ← if ← eatIf bang .bang then pure (n.set "definite" (.bool true)) else pure n
  match ← colonType? with
  | none => return n
  | some t =>
    let r ← reader
    return n.modifyChild "id" fun id => (id.set "typeAnnotation" (.node t)).endingAt r.lastStop r.lastStopLoc

/-- The fields of a variable declaration after its keyword. `announced` variables need no
value. -/
def typedVariables (announced : Bool) (n : Node) (isFor : Bool) (kind : String) : Parse Node := do
  let check (id : Node) : Parse Unit := do unless announced do checkMissingValue id isFor kind
  let items ← declarations (declarator (typedVariableId kind) isFor check)
  return (n.set "declarations" (.nodes items)).set "kind" (.word kind)

/-- The expression is a number. -/
def isNumberLiteral (n : Node) : Bool :=
  let isNumber : Value → Bool
    | .number _ => true
    | _ => false
  n.is .literal && (n.has "bigint" || (n.get "value").value?.elim false isNumber)

/-- A literal that stands for its value alone. -/
def isConstantLiteral (n : Node) : Bool :=
  let isPlain : Value → Bool
    | .string _ => true
    | .bool _ => true
    | _ => false
  isNumberLiteral n || (n.is .literal && (n.get "value").value?.elim false isPlain)
    || (n.is .templateLiteral && (n.children "expressions").isEmpty)

/-- A number after its sign. -/
def isSignedNumber (n : Node) : Bool :=
  n.is .unaryExpression && (n.word? "operator" == some "-" || n.word? "operator" == some "+")
    && (n.child? "argument").elim false isNumberLiteral

/-- A chain of plain members. -/
def isMemberChain : Nat → Node → Bool
  | 0, _ => false
  | fuel + 1, n =>
    n.is .identifier
      || (n.is .memberExpression && !n.isTrue "computed" && (n.child? "object").elim false (isMemberChain fuel))

/-- The member of an enumeration. -/
def isEnumMember (fuel : Nat) (n : Node) : Bool :=
  let isPlainTemplate (p : Node) : Bool := p.is .templateLiteral && (p.children "expressions").isEmpty
  n.is .memberExpression && (!n.isTrue "computed" || (n.child? "property").elim false isPlainTemplate)
    && (n.child? "object").elim false (isMemberChain fuel)

/-- The value of a constant that is only announced. -/
def isAmbientConstant (fuel : Nat) (n : Node) : Bool :=
  isConstantLiteral n || isSignedNumber n || isEnumMember fuel n

/-- Checks the values of announced variables. -/
def checkAmbientValues (n : Node) (kind : String) : Parse Unit := do
  let fuel ← steps
  for d in n.children "declarations" do
    if let some init := d.child? "init" then
      let annotated := (d.child? "id").elim false fun id => id.has "typeAnnotation"
      if kind != "const" || annotated then refuse init.start .ambientValue
      else unless isAmbientConstant fuel init do refuse init.start .ambientConstant

/-- A declaration of variables at its keyword. -/
def typedVariableStatement (announced : Bool) (n : Node) (kind : String) : Parse Node := do
  let ambient := (← types).ambient
  next
  let n ← typedVariables (announced || ambient) n false kind
  semicolon
  let n ← finish n .variableDeclaration
  if ambient then checkAmbientValues n kind
  return n

/-! ### Enumerations -/

def enumMember : Parse Node := do
  let n ← startNode
  let id ← if ← at_ .string then do literal (← tokenValue) else anyName
  let n := n.set "id" (.node id)
  let n ← if ← eat .eq then do pure (n.set "initializer" (.node (← assign))) else pure n
  finish n .tsEnumMember

/-- An enumeration at its keyword. -/
def enumDeclaration (n : Node) : Parse Node := do
  expectTypeWord .enumW
  let id ← identifier
  checkSimple id .lexical
  expect .braceL
  let (items, _) ← commaList enumMember (at_ .braceR)
  expect .braceR
  finish ((n.set "id" (.node id)).set "members" (.nodes items)) .tsEnumDeclaration

/-- An enumeration of constants follows. -/
def atConstEnum : Parse Bool := atKeyword .constK <&&> do return (← ahead).isTypeWord .enumW

/-! ### Interfaces and aliases -/

/-- An interface at its keyword, if its name follows on the same line. -/
def interface? (n : Node) : Parse (Option Node) := do
  if ← newlineAfter then return none
  expectTypeWord .interfaceW
  unless ← atIdentifier do refuse (← start) .interfaceWithoutName
  let id ← identifier
  checkSimple id .interface
  let n ← setTypeParameters (n.set "id" (.node id)) [.inM, .outM]
  let n ← if ← eatKeyword .extendsK then do pure (n.set "extends" (.nodes (← heritage "extends"))) else pure n
  let body ← startNode
  let items ← inType typeMembers
  let body ← finish (body.set "body" (.nodes items)) .tsInterfaceBody
  return some (← finish (n.set "body" (.node body)) .tsInterfaceDeclaration)

/-- The type of an alias, perhaps the word `interface` that stands for a built-in one. -/
def aliasedType : Parse Node := do
  if ← atTypeWord .interfaceW <&&> (do return (← ahead).kind != .dot) then
    let n ← startNode
    next
    finish n .tsIntrinsicKeyword
  else type

/-- An alias after its keyword. -/
def aliasDeclaration (n : Node) : Parse Node := do
  let id ← identifier
  checkSimple id .typeAlias
  let (n, t) ← inType do
    let n ← setTypeParameters (n.set "id" (.node id)) [.inM, .outM]
    expect .eq
    return (n, ← aliasedType)
  let n := n.set "typeAnnotation" (.node t)
  semicolon
  finish n .tsTypeAliasDeclaration

/-! ### Namespaces -/

/-- The statements of a namespace in braces. -/
def namespaceBlock : Parse Node := do
  let n ← startNode
  enterScope { space := true }
  expect .braceL
  let mut items : Array Node := #[]
  for _ in [0 : ← steps] do
    if ← at_ .braceR then break
    items := items.push (← statement false true)
  next
  exitScope
  finish (n.set "body" (.nodes items.toList)) .tsModuleBlock

/-- The block of a namespace, in a scope of its own. -/
def scopedBlock : Parse Node := do
  enterScope { space := true }
  let body ← namespaceBlock
  exitScope
  return body

/-- A namespace whose name is a string, or the global one, at the name. -/
def ambientModule (n : Node) : Parse Node := do
  let n ←
    if ← atTypeWord .globalW then do
      let n := n.set "global" (.bool true)
      pure (n.set "id" (.node (← identifier)))
    else if ← at_ .string then do pure (n.set "id" (.node (← literal (← tokenValue))))
    else unexpected
  if ← at_ .braceL then finish (n.set "body" (.node (← scopedBlock))) .tsModuleDeclaration
  else
    semicolon
    finish n .tsModuleDeclaration

/-- The names of a namespace, outermost first: each is declared, and opens a node. -/
def namespaceFrom : Nat → Node → Bool → Parse Node
  | 0, _, _ => throw .exhausted
  | fuel + 1, n, nested => do
    let id ← identifier
    unless nested do checkSimple id .space
    let n := n.set "id" (.node id)
    if ← eat .dot then
      let inner ← namespaceFrom fuel (← startNode) true
      finish (n.set "body" (.node inner)) .tsModuleDeclaration
    else finish (n.set "body" (.node (← scopedBlock))) .tsModuleDeclaration

/-- A namespace at its name. -/
def namespaceDeclaration (n : Node) : Parse Node := do namespaceFrom (← steps) n false

/-! ### Declarations by their first word -/

/-- The words of a declaration stand on one line. `atWord` tells that the current token is
the first of them. -/
def onOneLine (atWord : Bool) : Parse Bool := do
  if atWord then
    if ← newlineAfter then return false
    next
    return true
  else return !(← endsStatement)

/-- An abstract class, or by mistake an interface, after `abstract`. -/
def abstractDeclaration? (n : Node) : Parse (Option Node) := do
  if ← atKeyword .classK then some <$> classNode (n.set "abstract" (.bool true)) .declaration
  else if ← atTypeWord .interfaceW then
    if ← newlineAfter then return none
    interface? (n.set "abstract" (.bool true))
  else unexpected

/-- A declaration that starts with a word that is a name elsewhere. -/
def wordDeclaration? (n : Node) (word : String) (atWord : Bool) : Parse (Option Node) := do
  if word == "abstract" then
    unless ← onOneLine atWord do return none
    if (← atKeyword .classK) || (← atIdentifier) then abstractDeclaration? n else return none
  else if word == "module" then
    unless ← onOneLine atWord do return none
    if ← at_ .string then some <$> ambientModule n
    else if ← atIdentifier then some <$> namespaceDeclaration n
    else return none
  else if word == "namespace" then
    unless ← onOneLine atWord do return none
    if ← atIdentifier then some <$> namespaceDeclaration n else return none
  else if word == "type" then
    unless ← onOneLine atWord do return none
    if ← atIdentifier then some <$> aliasDeclaration n else return none
  else return none

/-! ### Announcements -/

/-- What is announced after `declare`, if something is. -/
def announced? (n : Node) : Parse (Option Node) := do
  if ← endsStatement then return none
  let isLet ← atWord "let"
  let declared := n.set "declare" (.bool true)
  inAmbient do
    if isLet then some <$> typedVariableStatement true declared "let"
    else
      match ← kind with
      | .keyword .functionK =>
        next
        some <$> function declared .declaration false false
      | .keyword .classK => some <$> classNode declared .declaration
      | .typeWord .enumW => some <$> enumDeclaration declared
      | .typeWord .globalW => some <$> ambientModule n
      | .keyword .constK =>
        if ← atConstEnum then
          next
          some <$> enumDeclaration ((n.set "const" (.bool true)).set "declare" (.bool true))
        else some <$> typedVariableStatement true declared "const"
      | .keyword .varK => some <$> typedVariableStatement true declared "var"
      | .typeWord .interfaceW => interface? declared
      | k => if k.isIdentifier then wordDeclaration? n (← value).wordD true else return none

end EcmaModule.Grammar.Parse
