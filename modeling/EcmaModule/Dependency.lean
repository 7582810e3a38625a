import EcmaModule.Tree.Walk

/-! The module specifiers a tree refers to.

They come in source order, each once. A specifier is a string literal or a template
without expressions; the target of an `import()` counts only when asked for. -/
namespace EcmaModule.Dependency

open EcmaModule.Tree

/-- The text of a string literal or of a template without expressions. -/
def specifierOf? (v : Value) : Option Text :=
  match node? v with
  | none => none
  | some n =>
    if n.isKind "Literal" then
      match n.get "value" with
      | .string t => some t
      | _ => none
    else if n.isKind "TemplateLiteral" then
      match n.get "expressions", n.get "quasis" with
      | .array [], .array (quasi :: _) =>
        match node? quasi with
        | some q => ((q.get "value").get "cooked").text?
        | none => none
      | _, _ => none
    else none

/-- A call of the identifier `require`. -/
def isRequireCall (n : Node) : Bool :=
  match node? (n.get "callee") with
  | some callee => callee.isKind "Identifier" && (callee.get "name").text? == some (Text.ofString "require")
  | none => false

def firstArgument (n : Node) : Value :=
  match n.get "arguments" with
  | .array (a :: _) => a
  | _ => .undefined

/-- The specifier of an import that names an external module. -/
def externalModule? (n : Node) : Option Text :=
  match node? (n.get "moduleReference") with
  | some r => if r.isKind "TSExternalModuleReference" then specifierOf? (r.get "expression") else none
  | none => none

/-- The specifier a node refers to. -/
def specifierFor? (dynamic : Bool) (n : Node) : Option Text :=
  if n.isKind "ImportDeclaration" || n.isKind "ExportNamedDeclaration" || n.isKind "ExportAllDeclaration" then
    specifierOf? (n.get "source")
  else if n.isKind "ImportExpression" then
    if dynamic then specifierOf? (n.get "source") else none
  else if n.isKind "TSImportEqualsDeclaration" then externalModule? n
  else if n.isKind "CallExpression" then
    if isRequireCall n then specifierOf? (firstArgument n) else none
  else none

/-- A specifier and the start of the node that refers to it. -/
structure Reference where
  start : Number
  specifier : Text
  deriving Inhabited

/-- The references of a tree, in visiting order. -/
def references (dynamic : Bool) (tree : Value) : List Reference :=
  (visits tree).filterMap fun v => (specifierFor? dynamic v.node).map fun s => ⟨v.node.start, s⟩

/-- Not after, by start. A start that is not a number ties with all others. -/
def notAfter (a b : Reference) : Bool := !Number.lt b.start a.start

/-- The specifiers of a tree, by the start of their first reference. -/
def collect (dynamic : Bool) (tree : Value) : List Text :=
  (((references dynamic tree).mergeSort notAfter).map Reference.specifier).eraseDups

end EcmaModule.Dependency
