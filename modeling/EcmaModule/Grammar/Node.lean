import EcmaModule.Value

/-! Nodes of a tree under construction.

A node has a kind, the place it stands at, and fields in the order in which they
were first set; that order is the order of the finished tree. -/
namespace EcmaModule.Grammar

/-- The kinds of nodes: those of plain sources, then those that types bring. -/
inductive NodeKind where
  /-- The kind of a node that is still being read. -/
  | unfinished
  | arrayExpression | arrayPattern | arrowFunctionExpression | assignmentExpression
  | assignmentPattern | awaitExpression | binaryExpression | blockStatement | breakStatement
  | callExpression | catchClause | chainExpression | classBody | classDeclaration | classExpression
  | conditionalExpression | continueStatement | debuggerStatement | doWhileStatement | emptyStatement
  | exportAllDeclaration | exportDefaultDeclaration | exportNamedDeclaration | exportSpecifier
  | expressionStatement | forInStatement | forOfStatement | forStatement | functionDeclaration
  | functionExpression | identifier | ifStatement | importDeclaration | importDefaultSpecifier
  | importExpression | importNamespaceSpecifier | importSpecifier | labeledStatement | literal
  | logicalExpression | memberExpression | metaProperty | methodDefinition | newExpression
  | objectExpression | objectPattern | privateIdentifier | program | property | propertyDefinition
  | restElement | returnStatement | sequenceExpression | spreadElement | staticBlock | superReference
  | switchCase | switchStatement | taggedTemplateExpression | templateElement | templateLiteral
  | thisExpression | throwStatement | tryStatement | unaryExpression | updateExpression
  | variableDeclaration | variableDeclarator | whileStatement | yieldExpression | decorator
  | importAttribute | tsAnyKeyword | tsArrayType | tsAsExpression | tsBigIntKeyword | tsBooleanKeyword
  | tsCallSignatureDeclaration | tsConditionalType | tsConstructSignatureDeclaration
  | tsConstructorType | tsDeclareFunction | tsDeclareMethod | tsEnumDeclaration | tsEnumMember
  | tsExportAssignment | tsExpressionWithTypeArguments | tsExternalModuleReference | tsFunctionType
  | tsImportEqualsDeclaration | tsImportType | tsIndexSignature | tsIndexedAccessType | tsInferType
  | tsInstantiationExpression | tsInterfaceBody | tsInterfaceDeclaration | tsIntersectionType
  | tsIntrinsicKeyword | tsLiteralType | tsMappedType | tsMethodSignature | tsModuleBlock
  | tsModuleDeclaration | tsNamedTupleMember | tsNamespaceExportDeclaration | tsNeverKeyword
  | tsNonNullExpression | tsNullKeyword | tsNumberKeyword | tsObjectKeyword | tsOptionalType
  | tsParameterProperty | tsParenthesizedType | tsPropertySignature | tsQualifiedName | tsRestType
  | tsSatisfiesExpression | tsStringKeyword | tsSymbolKeyword | tsThisType | tsTupleType
  | tsTypeAliasDeclaration | tsAnnotationNode | tsTypeAssertion | tsTypeCastExpression | tsTypeLiteral
  | tsTypeOperator | tsTypeParameter | tsTypeParameterDeclaration | tsTypeParameterInstantiation
  | tsTypePredicate | tsTypeQuery | tsTypeReference | tsUndefinedKeyword | tsUnionType
  | tsUnknownKeyword | tsVoidKeyword
  deriving DecidableEq, Repr, Inhabited

/-- The type a node of the kind is shown with. -/
def NodeKind.name : NodeKind → String
  | .unfinished => ""
  | .arrayExpression => "ArrayExpression"
  | .arrayPattern => "ArrayPattern"
  | .arrowFunctionExpression => "ArrowFunctionExpression"
  | .assignmentExpression => "AssignmentExpression"
  | .assignmentPattern => "AssignmentPattern"
  | .awaitExpression => "AwaitExpression"
  | .binaryExpression => "BinaryExpression"
  | .blockStatement => "BlockStatement"
  | .breakStatement => "BreakStatement"
  | .callExpression => "CallExpression"
  | .catchClause => "CatchClause"
  | .chainExpression => "ChainExpression"
  | .classBody => "ClassBody"
  | .classDeclaration => "ClassDeclaration"
  | .classExpression => "ClassExpression"
  | .conditionalExpression => "ConditionalExpression"
  | .continueStatement => "ContinueStatement"
  | .debuggerStatement => "DebuggerStatement"
  | .doWhileStatement => "DoWhileStatement"
  | .emptyStatement => "EmptyStatement"
  | .exportAllDeclaration => "ExportAllDeclaration"
  | .exportDefaultDeclaration => "ExportDefaultDeclaration"
  | .exportNamedDeclaration => "ExportNamedDeclaration"
  | .exportSpecifier => "ExportSpecifier"
  | .expressionStatement => "ExpressionStatement"
  | .forInStatement => "ForInStatement"
  | .forOfStatement => "ForOfStatement"
  | .forStatement => "ForStatement"
  | .functionDeclaration => "FunctionDeclaration"
  | .functionExpression => "FunctionExpression"
  | .identifier => "Identifier"
  | .ifStatement => "IfStatement"
  | .importDeclaration => "ImportDeclaration"
  | .importDefaultSpecifier => "ImportDefaultSpecifier"
  | .importExpression => "ImportExpression"
  | .importNamespaceSpecifier => "ImportNamespaceSpecifier"
  | .importSpecifier => "ImportSpecifier"
  | .labeledStatement => "LabeledStatement"
  | .literal => "Literal"
  | .logicalExpression => "LogicalExpression"
  | .memberExpression => "MemberExpression"
  | .metaProperty => "MetaProperty"
  | .methodDefinition => "MethodDefinition"
  | .newExpression => "NewExpression"
  | .objectExpression => "ObjectExpression"
  | .objectPattern => "ObjectPattern"
  | .privateIdentifier => "PrivateIdentifier"
  | .program => "Program"
  | .property => "Property"
  | .propertyDefinition => "PropertyDefinition"
  | .restElement => "RestElement"
  | .returnStatement => "ReturnStatement"
  | .sequenceExpression => "SequenceExpression"
  | .spreadElement => "SpreadElement"
  | .staticBlock => "StaticBlock"
  | .superReference => "Super"
  | .switchCase => "SwitchCase"
  | .switchStatement => "SwitchStatement"
  | .taggedTemplateExpression => "TaggedTemplateExpression"
  | .templateElement => "TemplateElement"
  | .templateLiteral => "TemplateLiteral"
  | .thisExpression => "ThisExpression"
  | .throwStatement => "ThrowStatement"
  | .tryStatement => "TryStatement"
  | .unaryExpression => "UnaryExpression"
  | .updateExpression => "UpdateExpression"
  | .variableDeclaration => "VariableDeclaration"
  | .variableDeclarator => "VariableDeclarator"
  | .whileStatement => "WhileStatement"
  | .yieldExpression => "YieldExpression"
  | .decorator => "Decorator"
  | .importAttribute => "ImportAttribute"
  | .tsAnyKeyword => "TSAnyKeyword"
  | .tsArrayType => "TSArrayType"
  | .tsAsExpression => "TSAsExpression"
  | .tsBigIntKeyword => "TSBigIntKeyword"
  | .tsBooleanKeyword => "TSBooleanKeyword"
  | .tsCallSignatureDeclaration => "TSCallSignatureDeclaration"
  | .tsConditionalType => "TSConditionalType"
  | .tsConstructSignatureDeclaration => "TSConstructSignatureDeclaration"
  | .tsConstructorType => "TSConstructorType"
  | .tsDeclareFunction => "TSDeclareFunction"
  | .tsDeclareMethod => "TSDeclareMethod"
  | .tsEnumDeclaration => "TSEnumDeclaration"
  | .tsEnumMember => "TSEnumMember"
  | .tsExportAssignment => "TSExportAssignment"
  | .tsExpressionWithTypeArguments => "TSExpressionWithTypeArguments"
  | .tsExternalModuleReference => "TSExternalModuleReference"
  | .tsFunctionType => "TSFunctionType"
  | .tsImportEqualsDeclaration => "TSImportEqualsDeclaration"
  | .tsImportType => "TSImportType"
  | .tsIndexSignature => "TSIndexSignature"
  | .tsIndexedAccessType => "TSIndexedAccessType"
  | .tsInferType => "TSInferType"
  | .tsInstantiationExpression => "TSInstantiationExpression"
  | .tsInterfaceBody => "TSInterfaceBody"
  | .tsInterfaceDeclaration => "TSInterfaceDeclaration"
  | .tsIntersectionType => "TSIntersectionType"
  | .tsIntrinsicKeyword => "TSIntrinsicKeyword"
  | .tsLiteralType => "TSLiteralType"
  | .tsMappedType => "TSMappedType"
  | .tsMethodSignature => "TSMethodSignature"
  | .tsModuleBlock => "TSModuleBlock"
  | .tsModuleDeclaration => "TSModuleDeclaration"
  | .tsNamedTupleMember => "TSNamedTupleMember"
  | .tsNamespaceExportDeclaration => "TSNamespaceExportDeclaration"
  | .tsNeverKeyword => "TSNeverKeyword"
  | .tsNonNullExpression => "TSNonNullExpression"
  | .tsNullKeyword => "TSNullKeyword"
  | .tsNumberKeyword => "TSNumberKeyword"
  | .tsObjectKeyword => "TSObjectKeyword"
  | .tsOptionalType => "TSOptionalType"
  | .tsParameterProperty => "TSParameterProperty"
  | .tsParenthesizedType => "TSParenthesizedType"
  | .tsPropertySignature => "TSPropertySignature"
  | .tsQualifiedName => "TSQualifiedName"
  | .tsRestType => "TSRestType"
  | .tsSatisfiesExpression => "TSSatisfiesExpression"
  | .tsStringKeyword => "TSStringKeyword"
  | .tsSymbolKeyword => "TSSymbolKeyword"
  | .tsThisType => "TSThisType"
  | .tsTupleType => "TSTupleType"
  | .tsTypeAliasDeclaration => "TSTypeAliasDeclaration"
  | .tsAnnotationNode => "TSTypeAnnotation"
  | .tsTypeAssertion => "TSTypeAssertion"
  | .tsTypeCastExpression => "TSTypeCastExpression"
  | .tsTypeLiteral => "TSTypeLiteral"
  | .tsTypeOperator => "TSTypeOperator"
  | .tsTypeParameter => "TSTypeParameter"
  | .tsTypeParameterDeclaration => "TSTypeParameterDeclaration"
  | .tsTypeParameterInstantiation => "TSTypeParameterInstantiation"
  | .tsTypePredicate => "TSTypePredicate"
  | .tsTypeQuery => "TSTypeQuery"
  | .tsTypeReference => "TSTypeReference"
  | .tsUndefinedKeyword => "TSUndefinedKeyword"
  | .tsUnionType => "TSUnionType"
  | .tsUnknownKeyword => "TSUnknownKeyword"
  | .tsVoidKeyword => "TSVoidKeyword"

/-- A line counted from one and a column in code units. -/
structure Loc where
  line : Nat
  column : Nat
  deriving DecidableEq, Repr, Inhabited

/-- A place between two positions, known by index and by line and column. -/
structure Extent where
  start : Nat
  startLoc : Loc
  stop : Nat
  stopLoc : Loc
  deriving DecidableEq, Repr, Inhabited

mutual

/-- A node: kind, place, and fields in order. -/
inductive Node where
  | mk (kind : NodeKind) (extent : Extent) (fields : List (String × Datum))

/-- What a field holds. -/
inductive Datum where
  /-- Data that holds no node. -/
  | value (v : Value)
  | node (n : Node)
  | list (items : List Datum)

end

instance : Inhabited Datum := ⟨.value .null⟩
instance : Inhabited Node := ⟨.mk default default []⟩

namespace Datum

def null : Datum := .value .null
def bool (b : Bool) : Datum := .value (.bool b)
def text (t : Text) : Datum := .value (.string t)
def word (s : String) : Datum := .value (.string (Text.ofString s))
def nodes (ns : List Node) : Datum := .list (ns.map .node)
def ofOption (n : Option Node) : Datum := n.elim null .node

/-- A list with holes. -/
def holes (ns : List (Option Node)) : Datum := .list (ns.map ofOption)

def node? : Datum → Option Node
  | node n => some n
  | _ => none

def value? : Datum → Option Value
  | value v => some v
  | _ => none

def items : Datum → List Datum
  | list ds => ds
  | _ => []

def isTrue : Datum → Bool
  | value (.bool b) => b
  | _ => false

def word? (d : Datum) : Option String :=
  match d with
  | value (.string t) => t.toString?
  | _ => none

end Datum

namespace Node

def kind : Node → NodeKind
  | mk k _ _ => k

def extent : Node → Extent
  | mk _ e _ => e

def fields : Node → List (String × Datum)
  | mk _ _ fs => fs

def start (n : Node) : Nat := n.extent.start
def stop (n : Node) : Nat := n.extent.stop
def startLoc (n : Node) : Loc := n.extent.startLoc

def is (n : Node) (k : NodeKind) : Bool := n.kind == k

def withKind : Node → NodeKind → Node
  | mk _ e fs, k => mk k e fs

def withExtent : Node → Extent → Node
  | mk k _ fs, e => mk k e fs

/-- The node with its start moved. -/
def startingAt (n : Node) (start : Nat) (loc : Loc) : Node :=
  n.withExtent { n.extent with start := start, startLoc := loc }

/-- The node with its end moved. -/
def endingAt (n : Node) (stop : Nat) (loc : Loc) : Node :=
  n.withExtent { n.extent with stop := stop, stopLoc := loc }

def get? (n : Node) (key : String) : Option Datum := (n.fields.find? fun f => f.1 == key).map (·.2)

def get (n : Node) (key : String) : Datum := (n.get? key).getD .null

def has (n : Node) (key : String) : Bool := (n.get? key).isSome

/-- The node in a field. -/
def child? (n : Node) (key : String) : Option Node := (n.get key).node?

/-- The nodes in a field that holds a list. -/
def children (n : Node) (key : String) : List Node := (n.get key).items.filterMap Datum.node?

/-- The word in a field. -/
def word? (n : Node) (key : String) : Option String := (n.get key).word?

def isTrue (n : Node) (key : String) : Bool := (n.get key).isTrue

/-- The name of an identifier. -/
def name? (n : Node) : Option String := n.word? "name"

def isNamed (n : Node) (s : String) : Bool := n.is .identifier && n.name? == some s

/-- The expression asserts something about the type of another. -/
def isCast (n : Node) : Bool :=
  n.is .tsAsExpression || n.is .tsSatisfiesExpression || n.is .tsNonNullExpression || n.is .tsTypeAssertion

/-- Sets a field; a field set before keeps its place. -/
def set : Node → String → Datum → Node
  | mk k e fs, key, d =>
    if fs.any fun f => f.1 == key then mk k e (fs.map fun f => if f.1 == key then (key, d) else f)
    else mk k e (fs ++ [(key, d)])

def remove : Node → String → Node
  | mk k e fs, key => mk k e (fs.filter fun f => f.1 != key)

/-- Changes the node in a field, if there is one. -/
def modifyChild (n : Node) (key : String) (change : Node → Node) : Node :=
  match n.child? key with
  | some c => n.set key (.node (change c))
  | none => n

end Node

/-! ### Finished trees -/

def Loc.toValue (l : Loc) : Value :=
  .object [("line", .number (.ofNat l.line)), ("column", .number (.ofNat l.column))]

/-- The fields every node has. -/
def headFields (kind : NodeKind) (e : Extent) : Value.Fields :=
  [("type", .string kind.name), ("start", .number (.ofNat e.start)), ("end", .number (.ofNat e.stop)),
    ("loc", .object [("start", e.startLoc.toValue), ("end", e.stopLoc.toValue)])]

mutual

/-- The node as a value. -/
def Node.toValue : Node → Value
  | .mk kind extent fields => .object (headFields kind extent ++ fieldsToValue fields)

def fieldsToValue : List (String × Datum) → Value.Fields
  | [] => []
  | f :: rest => (Text.ofString f.1, f.2.toValue) :: fieldsToValue rest

def Datum.toValue : Datum → Value
  | .value v => v
  | .node n => n.toValue
  | .list items => .array (itemsToValue items)

def itemsToValue : List Datum → List Value
  | [] => []
  | d :: rest => d.toValue :: itemsToValue rest

end

end EcmaModule.Grammar
