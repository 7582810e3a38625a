import EcmaModule.Grammar.Rule.Statement

/-! Imports, exports and the module as a whole. -/
namespace EcmaModule.Grammar.Parse

variable [Descent]

/-! ### Lists in braces -/

/-- Specifiers in braces, separated by commas. -/
def specifiers (one : Parse Node) : Parse (List Node) := do
  expect .braceL
  let mut items : Array Node := #[]
  for _ in [0 : ← steps] do
    if ← eat .braceR then return items.toList
    unless items.isEmpty do
      expect .comma
      if ← eatAfterComma .braceR then return items.toList
    items := items.push (← one)
  throw .exhausted

/-- The module that an import or export names. -/
def sourceLiteral : Parse Node := do
  unless ← at_ .string do unexpected
  atom

/-! ### Imports -/

def importSpecifier : Parse Node := do
  let n ← startNode
  let imported ← moduleName
  let n := n.set "imported" (.node imported)
  let localName ←
    if ← eatWord "as" then identifier
    else do
      checkUnreserved imported
      pure imported
  checkSimple localName .lexical
  finish (n.set "local" (.node localName)) .importSpecifier

/-- A name that an import binds as a whole. -/
def boundImport (n : Node) (k : NodeKind) : Parse Node := do
  let localName ← identifier
  checkSimple localName .lexical
  finish (n.set "local" (.node localName)) k

def importNamespaceSpecifier : Parse Node := do
  let n ← startNode
  next
  expectWord "as"
  boundImport n .importNamespaceSpecifier

/-- The names of an import; `one` reads a name in braces. -/
def importSpecifiers (one : Parse Node) (startsName : Parse Bool) : Parse (List Node) := do
  let mut items : List Node := []
  if ← startsName then
    items := [← boundImport (← startNode) .importDefaultSpecifier]
    unless ← eat .comma do return items
  if ← at_ .star then return items ++ [← importNamespaceSpecifier]
  return items ++ (← specifiers one)

def plainImport (n : Node) : Parse Node := do
  next
  let n ←
    if ← at_ .string then do
      let n := n.set "specifiers" (.list [])
      pure (n.set "source" (.node (← atom)))
    else do
      let n := n.set "specifiers" (.nodes (← importSpecifiers importSpecifier (at_ .name)))
      expectWord "from"
      pure (n.set "source" (.node (← sourceLiteral)))
  semicolon
  finish n .importDeclaration

/-! ### Exports -/

/-- Notes an exported name that is not declared so far. -/
def noteUndefinedExport (name : String) (pos : Nat) : Parse Unit :=
  modify fun s => { s with undefinedExports :=
    if s.undefinedExports.any fun e => e.1 == name then
      s.undefinedExports.map fun e => if e.1 == name then (name, pos) else e
    else s.undefinedExports ++ [(name, pos)] }

/-- Notes the name of an export, unless the module declares it. -/
def checkLocalExport (id : Node) : Parse Unit := do
  let name := id.name?.getD ""
  let declared := (← get).scopes.getLast?.elim false fun s => s.lexical.contains name || s.hoisted.contains name
  unless declared do noteUndefinedExport name id.start

/-- Names exported without a source are names of the module. -/
def checkLocalExports (ns : List Node) : Parse Unit := do
  for n in ns do
    if let some id := n.child? "local" then
      checkUnreserved id
      checkLocalExport id
      if id.is .literal then raise id.start .exportedString

def exportSpecifier : Parse Node := do
  let n ← startNode
  let localName ← moduleName
  let exported ← if ← eatWord "as" then moduleName else pure localName
  checkExport (exportedText exported) exported.start
  finish ((n.set "local" (.node localName)).set "exported" (.node exported)) .exportSpecifier

/-- Everything a module exports, exported again. -/
def exportAll (n : Node) : Parse Node := do
  let exported ←
    if ← eatWord "as" then do
      let name ← moduleName
      checkExport (exportedText name) (← lastStart)
      pure (some name)
    else pure none
  expectWord "from"
  let n := (n.set "exported" (.ofOption exported)).set "source" (.node (← sourceLiteral))
  semicolon
  finish n .exportAllDeclaration

/-- The declaration, class or expression of a default export. -/
def plainDefaultExport : Parse Node := do
  let n ← startNode
  if ← atKeyword .functionK then
    next
    function n .optional false false
  else if ← isAsyncFunction then
    next
    next
    function n .optional false true
  else if ← atKeyword .classK then classNode n .optional
  else
    let e ← assign
    semicolon
    return e

/-- A declaration can be exported where the current token stands. -/
def startsExportedDeclaration : Parse Bool := do
  match ← kind with
  | .keyword k => return k == .varK || k == .constK || k == .classK || k == .functionK
  | _ => return (← isLet false) || (← isAsyncFunction)

/-- The names of a declaration are exported. -/
def checkDeclaredExports (n : Node) : Parse Unit := do
  if n.is .variableDeclaration then
    for d in n.children "declarations" do
      if let some id := d.child? "id" then descend (.checkPatternExport id)
  else if let some id := n.child? "id" then checkExport (exportedText id) id.start

/-- A list of names, perhaps of another module. -/
def namedExport (n : Node) : Parse Node := do
  let n := n.set "declaration" .null
  let names ← specifiers exportSpecifier
  let n := n.set "specifiers" (.nodes names)
  let source ←
    if ← eatWord "from" then some <$> sourceLiteral
    else do
      checkLocalExports names
      pure none
  semicolon
  finish (n.set "source" (.ofOption source)) .exportNamedDeclaration

def plainExport (n : Node) : Parse Node := do
  next
  if ← eat .star then exportAll n
  else if ← eatKeyword .defaultK then
    checkExport (Text.ofString "default") (← lastStart)
    finish (n.set "declaration" (.node (← plainDefaultExport))) .exportDefaultDeclaration
  else if ← startsExportedDeclaration then
    let d ← statement
    checkDeclaredExports d
    finish (((n.set "declaration" (.node d)).set "specifiers" (.list [])).set "source" .null) .exportNamedDeclaration
  else namedExport n

/-! ### Modules -/

/-- Exported names that nothing declares. -/
def checkUndefinedExports : Parse Unit := do
  for (name, pos) in (← get).undefinedExports do
    complain pos (.exportUndefined name)

/-- A module, from its first token to the end of the source. -/
def module : Parse Node := do
  if (← source).hasAt (Text.ofString "#!") 0 then skipLineComment 2
  let n := nodeAt 0 ⟨1, 0⟩
  nextToken
  let mut items : Array Node := #[]
  for _ in [0 : ← steps] do
    if ← at_ .eof then break
    items := items.push (← statement false true)
  checkUndefinedExports
  next
  let n := n.set "body" (.nodes (markDirectives (← source) items.toList))
  finish (n.set "sourceType" (.word "module")) .program

end EcmaModule.Grammar.Parse
