import EcmaModule.Grammar.Rule.Module
import EcmaModule.Grammar.Typed.Declaration

/-! Statements of typed sources, with imports and exports. -/
namespace EcmaModule.Grammar.Parse

variable [Descent]

/-! ### Statements -/

/-- The parameter of a `catch` after its parenthesis, with its type; its scope is opened. -/
def typedCatchParameter : Parse Node := do
  let p ← bindingAtom
  let simple := p.is .identifier
  enterScope { simpleCatch := simple }
  checkPattern p (if simple then .catchParameter else .lexical)
  let p ←
    match ← colonType? with
    | some t => endHere (p.set "typeAnnotation" (.node t))
    | none => pure p
  expect .parenR
  return p

/-- A declaration that starts with the name `e`, which was read as an expression. -/
def declarationFrom? (n e : Node) : Parse (Option Node) := do
  let word := e.name?.getD ""
  if word == "declare" then
    match ← announced? n with
    | some d => return some (d.set "declare" (.bool true))
    | none => return none
  else if word == "global" then
    unless ← at_ .braceL do return none
    enterScope { space := true }
    let n := (n.set "global" (.bool true)).set "id" (.node e)
    let n := n.set "body" (.node (← namespaceBlock))
    exitScope
    some <$> finish n .tsModuleDeclaration
  else wordDeclaration? n word false

/-- An expression, a labelled statement, or a declaration that starts with a word. -/
def typedOpenStatement (n : Node) : Parse Node := do
  let r ← reader
  let e ← expression
  if ← eatIf (r.kind == .name && e.is .identifier) .colon then labeledStatement n e r.value.wordD
  else
    match ← if e.is .identifier then declarationFrom? n e else pure none with
    | some d => return d
    | none => expressionStatement n e

/-! ### Attributes -/

/-- One attribute of an import. -/
def importAttribute (names : List (Option String)) : Parse Node := do
  let n ← startNode
  let key ← if ← at_ .string then do literal (← tokenValue) else anyName
  next
  let n := n.set "key" (.node key)
  if names.contains key.name? then refuse (← pos) .duplicateAttribute
  unless ← at_ .string do refuse (← pos) .attributeNotString
  finish (n.set "value" (.node (← literal (← tokenValue)))) .importAttribute

/-- The attributes of an import in braces. -/
def importAttributes : Parse (List Node) := do
  expect .braceL
  let mut items : Array Node := #[]
  for _ in [0 : ← steps] do
    if ← at_ .braceR then break
    let names := items.toList.map fun a => (a.child? "key").bind Node.name?
    items := items.push (← importAttribute names)
    unless ← eat .comma do break
  expect .braceR
  return items.toList

/-- The word before attributes, in its present or its former spelling. -/
def atAttributes : Parse Bool := atKeyword .withK <||> (atTypeWord .assertW <&&> do return (← unitAfter) == 0x7B)

/-- The attributes after the name of a module. -/
def setAttributes (n : Node) : Parse Node := do
  unless ← atAttributes do return n
  next
  return n.set "attributes" (.nodes (← importAttributes))

/-! ### Imports -/

/-- Another module, or a name, that an import stands for. -/
def moduleReference : Parse Node := do
  if ← atWord "require" <&&> (do return (← unitAfter) == 0x28) then
    let n ← startNode
    next
    expect .parenL
    unless ← at_ .string do unexpected
    let n := n.set "expression" (.node (← atom))
    expect .parenR
    finish n .tsExternalModuleReference
  else entityName false

/-- An import that gives a name to a module or to another name, at its name. -/
def importEquals (n : Node) (isExport : Bool) : Parse Node := do
  let n := n.set "isExport" (.bool isExport)
  let id ← identifier
  checkSimple id .lexical
  let n := n.set "id" (.node id)
  expect .eq
  let reference ← moduleReference
  if n.word? "importKind" == some "type" && !reference.is .tsExternalModuleReference then
    refuse reference.start .typeImportOfAlias
  let n := n.set "moduleReference" (.node reference)
  semicolon
  finish n .tsImportEqualsDeclaration

/-- How the declaration around names what is imported or exported. -/
def setOuterKind (kind : Option String) : Parse Unit := modifyTypes fun t => { t with outerKind := kind }

/-- What a name after `type` in braces turned out to be. -/
structure MarkedName where
  isType : Bool
  left : Node
  right : Option Node := none
  /-- Another name may follow `as`. -/
  mayRename : Bool := true

/-- A name that follows `as`. -/
def renamed (isImport : Bool) : Parse Node := if isImport then identifier else moduleName

/-- The current token can be a name that is imported or exported. -/
def atAnyWord : Parse Bool := return (← kind).isKeywordOrIdentifier

/-- What follows the word `type` in braces; `word` is that word as a name. The word `as` may
be a name itself. -/
def markedName (word : Node) (isImport : Bool) : Parse MarkedName := do
  if ← atWord "as" then
    let first ← identifier
    if ← atWord "as" then
      let second ← identifier
      if ← atAnyWord then return ⟨true, first, some (← renamed isImport), false⟩
      else return ⟨false, word, some second, false⟩
    else if ← atAnyWord then return ⟨false, word, some (← renamed isImport), false⟩
    else return ⟨true, first, none, true⟩
  else if ← atAnyWord then
    if isImport then
      let name ← anyName
      unless ← atWord "as" do checkUnreserved name
      return ⟨true, name, none, true⟩
    else return ⟨true, ← moduleName, none, true⟩
  else return ⟨false, word, none, true⟩

/-- A specifier that starts with the word `type`. -/
def markedSpecifier (n word : Node) (isImport : Bool) : Parse Node := do
  let (leftKey, rightKey, kindKey) :=
    if isImport then ("imported", "local", "importKind") else ("local", "exported", "exportKind")
  let m ← markedName word isImport
  if m.isType && (← types).outerKind == some "type" then
    refuse word.start (if isImport then .repeatedTypeImport else .repeatedTypeExport)
  let right ←
    match m.right with
    | some r => pure r
    | none => if ← eatWordIf m.mayRename "as" then renamed isImport else pure m.left
  if isImport then checkSimple right .lexical
  let n := (n.set leftKey (.node m.left)).set rightKey (.node right)
  return n.set kindKey (.word (if m.isType then "type" else "value"))

def typedImportSpecifier : Parse Node := do
  if ← atTypeWord .typeW then
    let n ← startNode
    let word ← moduleName
    finish (← markedSpecifier n word true) .importSpecifier
  else return (← importSpecifier).set "importKind" (.word "value")

/-- What an import declaration starts with, the token after `import` being `first`. -/
structure ImportHead where
  isType : Bool
  /-- The import gives a name to a module. -/
  isEquals : Bool

/-- Reads the word `type` of an import if it is no name, and looks at what follows. -/
def importHead : Parse ImportHead := do
  let first ← ahead
  unless first.kind.isIdentifier || first.kind == .star || first.kind == .braceL do return ⟨false, false⟩
  let second ← ahead 2
  let isType := first.isTypeWord .typeW && second.kind != .comma && !second.isWord "from" && second.kind != .eq
  if isType then next
  let (first, second) ← if isType then do pure (← ahead, ← ahead 2) else pure (first, second)
  return ⟨isType, first.kind.isIdentifier && second.kind == .eq⟩

/-- A type-only import has either a default name or others. -/
def checkTypeImport (n : Node) : Parse Unit := do
  let names := n.children "specifiers"
  if n.word? "importKind" == some "type" && 1 < names.length
      && names.head?.elim false (fun s => s.is .importDefaultSpecifier) then
    refuse n.start .typeImportOfBoth

/-- The names and the module of an import. -/
def importFrom (n : Node) : Parse Node := do
  let n ←
    if ← at_ .string then do
      let n := n.set "specifiers" (.list [])
      pure (n.set "source" (.node (← atom)))
    else do
      let n := n.set "specifiers" (.nodes (← importSpecifiers typedImportSpecifier atIdentifier))
      expectWord "from"
      pure (n.set "source" (.node (← sourceLiteral)))
  let n ← setAttributes n
  semicolon
  finish n .importDeclaration

def typedImport (n : Node) : Parse Node := do
  setOuterKind (some "value")
  let head ← importHead
  let kind := if head.isType then "type" else "value"
  setOuterKind (some kind)
  let n := n.set "importKind" (.word kind)
  next
  let n ← if head.isEquals then importEquals n false else importFrom n
  setOuterKind (some "value")
  checkTypeImport n
  return n

/-! ### Exports -/

def typedExportSpecifier : Parse Node := do
  if ← atTypeWord .typeW then
    let n ← startNode
    let word ← moduleName
    finish (← markedSpecifier n word false) .exportSpecifier
  else
    let n ← startNode
    let localName ← moduleName
    let exported ← if ← eatWord "as" then moduleName else pure localName
    let n := (n.set "local" (.node localName)).set "exported" (.node exported)
    return (← finish n .exportSpecifier).set "exportKind" (.word "value")

/-- Everything a module exports, exported again. -/
def typedExportAll (n : Node) : Parse Node := do
  let exported ← if ← eatWord "as" then some <$> moduleName else pure none
  expectWord "from"
  let n := (n.set "exported" (.ofOption exported)).set "source" (.node (← sourceLiteral))
  let n ← setAttributes n
  semicolon
  finish n .exportAllDeclaration

/-- The declaration, class or expression of a default export. -/
def typedDefaultExport : Parse Node := do
  if ← atTypeWord .abstractW <&&> (do return (← ahead).kind == .keyword .classK) then
    let n ← startNode
    next
    classNode (n.set "abstract" (.bool true)) .declaration
  else
    if ← atTypeWord .interfaceW then
      if let some i ← interface? (← startNode) then return i
    plainDefaultExport

/-- A declaration can be exported where the current token stands. -/
def startsTypedDeclaration : Parse Bool := do
  match ← kind with
  | .typeWord w => if w.startsDeclaration then return true else startsExportedDeclaration
  | .at => return true
  | _ => startsExportedDeclaration

/-- A declaration after `export`, and whether it is one of types only. -/
def exportedDeclaration : Parse (Node × Bool) := do
  let r ← reader
  let announced ← eatTypeWord .declareW
  let read : Parse (Node × Bool) := do
    if announced then
      if (← atTypeWord .declareW) || !(← startsTypedDeclaration) then refuse (← start) .declareWithoutDeclaration
    let d ← if ← atIdentifier then wordDeclaration? (← startNode) (← value).wordD true else pure none
    let d ← d.elim statement pure
    let isType := announced || d.is .tsInterfaceDeclaration || d.is .tsTypeAliasDeclaration
    return (if announced then (d.startingAt r.start r.startLoc).set "declare" (.bool true) else d, isType)
  if announced then inAmbient read else read

/-- A declared name must be there. -/
def checkDeclaredName (d : Node) : Parse Unit := do
  if !d.is .variableDeclaration && (d.child? "id").isNone then
    broken "Cannot read properties of undefined (reading 'start')"

/-- Notes the name of an export, unless the module declares it or a type of that name. -/
def checkTypedLocalExport (id : Node) : Parse Unit := do
  let name := id.name?.getD ""
  unless (← get).scopes.any fun s => s.types.contains name do checkLocalExport id

/-- A list of names, perhaps of another module. -/
def typedNamedExport (n : Node) : Parse Node := do
  let n := n.set "declaration" .null
  let names ← specifiers typedExportSpecifier
  let n := n.set "specifiers" (.nodes names)
  let n ←
    if ← eatWord "from" then do setAttributes (n.set "source" (.node (← sourceLiteral)))
    else do
      for s in names do
        if let some id := s.child? "local" then
          checkUnreserved id
          checkTypedLocalExport id
          if id.is .literal then raise id.start .exportedString
      pure (n.set "source" .null)
  semicolon
  finish n .exportNamedDeclaration

/-- An import that is exported at once, at `import`. -/
def exportedImport (n : Node) : Parse Node := do
  next
  let isType := (← atTypeWord .typeW) && (← unitAfter) != 0x3D
  let kind := if isType then "type" else "value"
  setOuterKind (some kind)
  if isType then next
  let n ← importEquals (n.set "importKind" (.word kind)) true
  setOuterKind none
  return n

/-- What a module is as a whole, after `=`. -/
def exportAssignment (n : Node) : Parse Node := do
  next
  let n := n.set "expression" (.node (← expression))
  semicolon
  setOuterKind none
  finish n .tsExportAssignment

/-- The name of a module as a global namespace, after `as`. -/
def exportAsNamespace (n : Node) : Parse Node := do
  next
  expectTypeWord .namespaceW
  let n := n.set "id" (.node (← identifier))
  semicolon
  setOuterKind none
  finish n .tsNamespaceExportDeclaration

/-- An export of names, of a default or of a declaration, after `export` and perhaps `type`. -/
def exportRest (n : Node) : Parse Node := do
  if ← eat .star then typedExportAll n
  else if ← eatKeyword .defaultK then
    finish (n.set "declaration" (.node (← typedDefaultExport))) .exportDefaultDeclaration
  else if ← startsTypedDeclaration then
    let (d, isType) ← exportedDeclaration
    let n := if isType then n.set "exportKind" (.word "type") else n
    checkDeclaredName d
    finish (((n.set "declaration" (.node d)).set "specifiers" (.list [])).set "source" .null)
      .exportNamedDeclaration
  else typedNamedExport n

def typedExport (n : Node) : Parse Node := do
  let first ← ahead
  next
  if first.kind == .keyword .importK then exportedImport n
  else if first.kind == .eq then exportAssignment n
  else if first.isWord "as" then exportAsNamespace n
  else
    let second ← ahead
    let isType := first.isTypeWord .typeW && (second.kind == .braceL || second.kind == .star)
    let kind := if isType then "type" else "value"
    setOuterKind (some kind)
    if isType then next
    exportRest (n.set "exportKind" (.word kind))

/-! ### The rule -/

/-- The statements that typed sources have in a form of their own. -/
def typedStatementRules : StatementRules where
  variableList := typedVariables false
  variableStatement := typedVariableStatement false
  catchParameter := typedCatchParameter
  openStatement := typedOpenStatement
  importDeclaration := typedImport
  exportDeclaration := typedExport

/-- A statement; `nested` for the body of another one. -/
def typedStatement (nested topLevel : Bool) : Parse Node := do
  if ← at_ .at then keepDecorators true
  if ← atConstEnum then
    let n ← startNode
    next
    enumDeclaration (n.set "const" (.bool true))
  else if ← atTypeWord .enumW then enumDeclaration (← startNode)
  else
    if ← atTypeWord .interfaceW then
      if let some i ← interface? (← startNode) then return i
    statementWith typedStatementRules nested topLevel

end EcmaModule.Grammar.Parse
