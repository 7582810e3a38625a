import EcmaModule.Grammar.Cursor

/-! Scopes: what may stand where, and which names are declared.

All code is strict, so a function is declared like a variable in a function and like a
lexical name elsewhere. A name declared twice is complained about. -/
namespace EcmaModule.Grammar

namespace Scope

/-- A variable of the name cannot pass through the scope. The parameter of a `catch` is
passed if it is a plain name. -/
def stops (s : Scope) (name : String) : Bool :=
  (s.lexical.contains name && !(s.kind.simpleCatch && s.lexical.getLast? == some name))
    || (!s.kind.function && s.functions.contains name)

/-- The name was declared in this scope in a way that excludes a lexical one. -/
def holds (s : Scope) (name : String) : Bool :=
  s.lexical.contains name || s.functions.contains name || s.hoisted.contains name

end Scope

namespace State

/-- The scope of the innermost function, class member or module. -/
def bodyScope (s : State) : ScopeKind :=
  ((s.scopes.find? fun x => x.kind.isBody).map Scope.kind).getD {}

/-- The scope that decides what `this` is. -/
def thisScope (s : State) : ScopeKind :=
  ((s.scopes.find? fun x => x.kind.bindsThis).map Scope.kind).getD {}

def inFunction (s : State) : Bool := s.bodyScope.function
def inGeneratorBody (s : State) : Bool := s.bodyScope.generator
def inAsync (s : State) : Bool := s.bodyScope.async
def inStaticBlock (s : State) : Bool := s.bodyScope.staticBlock
def allowsSuper (s : State) : Bool := s.thisScope.method
def allowsSuperCall (s : State) : Bool := s.thisScope.derivedConstructor

/-- An `await` expression may stand here: in an async function, or outside all functions. -/
def allowsAwait (s : State) : Bool :=
  match s.scopes.find? fun x => x.kind.staticBlock || x.kind.fieldInit || x.kind.function with
  | some x => !x.kind.staticBlock && !x.kind.fieldInit && x.kind.async
  | none => true

def allowsNewTarget (s : State) : Bool :=
  s.scopes.any fun x => x.kind.staticBlock || x.kind.fieldInit || (x.kind.function && !x.kind.arrow)

/-- A function here is declared like a variable. -/
def functionsAreVariables (s : State) : Bool := (s.scopes.head?.map fun x => x.kind.function).getD false

/-! ### Declaring -/

def modifyScope (s : State) (change : Scope → Scope) : State :=
  match s.scopes with
  | scope :: rest => { s with scopes := change scope :: rest }
  | [] => s

/-- A declared name is no longer missing among the exported ones. -/
def defined (s : State) (name : String) (scope : ScopeKind) : State :=
  if scope.top then { s with undefinedExports := s.undefinedExports.filter fun e => e.1 != name } else s

/-- Declares a variable in the scopes from the innermost to the one that holds variables,
and says whether some scope stopped it. -/
def declareVariable (name : String) : List Scope → List Scope × Bool × Bool
  | [] => ([], false, false)
  | scope :: rest =>
    if scope.stops name then (scope :: rest, true, false)
    else
      let declared := { scope with hoisted := name :: scope.hoisted }
      if scope.kind.holdsVariables then (declared :: rest, false, scope.kind.top)
      else
        let (rest, stopped, top) := declareVariable name rest
        (declared :: rest, stopped, top || scope.kind.top)

end State

namespace Parse

def enterScope (k : ScopeKind) : Parse Unit := modify fun s => { s with scopes := { kind := k } :: s.scopes }

def exitScope : Parse Unit := modify fun s => { s with scopes := s.scopes.drop 1 }

/-- The scope of a function. -/
def functionScope (async generator : Bool) : ScopeKind := { function := true, async := async, generator := generator }

def currentScope : Parse Scope := return (← get).scopes.headD default

def redeclared (name : String) (pos : Nat) : Parse Unit := complain pos (.redeclared name)

/-- Declares a name that is visible in the current scope only. -/
def declareLexical (name : String) (pos : Nat) : Parse Unit := do
  let scope ← currentScope
  modify fun s =>
    (s.modifyScope fun scope => { scope with lexical := name :: scope.lexical }).defined name scope.kind
  if scope.holds name then redeclared name pos

def declareVariable (name : String) (pos : Nat) : Parse Unit := do
  let s ← get
  let (scopes, stopped, top) := State.declareVariable name s.scopes
  modify fun s => { s with scopes := scopes }
  if top then modify fun s => s.defined name { top := true }
  if stopped then redeclared name pos

/-- Declares a name of a type. Two aliases of one name exclude each other. -/
def declareType (name : String) (pos : Nat) (alias_ : Bool) : Parse Unit := do
  let scope ← currentScope
  if alias_ && scope.types.contains name then raise pos (.typeRedeclared name)
  modify fun s => s.modifyScope fun scope => { scope with types := name :: scope.types }

/-- Declares a name. -/
def declareName (name : String) (binding : Binding) (pos : Nat) : Parse Unit := do
  match binding with
  | .lexical => declareLexical name pos
  | .catchParameter => modify fun s => s.modifyScope fun scope => { scope with lexical := name :: scope.lexical }
  | .function =>
    let scope ← currentScope
    modify fun s => s.modifyScope fun scope => { scope with functions := name :: scope.functions }
    if scope.lexical.contains name || (!scope.kind.function && scope.hoisted.contains name) then
      redeclared name pos
  | .variable => declareVariable name pos
  | .typeAlias => declareType name pos true
  | .interface => declareType name pos false
  | .space => do
    let scope ← currentScope
    modify fun s =>
      (s.modifyScope fun scope => { scope with types := name :: scope.types }).defined name scope.kind
  | .none => pure ()
  | .outside => pure ()

/-- The binding of a function's name in its surroundings. -/
def functionBinding : Parse Binding :=
  return if (← get).functionsAreVariables then .variable else .lexical

/-! ### Reserved words -/

/-- Words that no code can use as a name. -/
def alwaysReserved : List String := ["enum", "await"]

/-- Words that strict code cannot use as a name. -/
def strictReserved : List String :=
  alwaysReserved ++ ["implements", "interface", "let", "package", "private", "protected", "public", "static", "yield"]

/-- Words that cannot be bound or assigned to. -/
def bindReserved : List String := strictReserved ++ ["eval", "arguments"]

/-- Checks that an identifier can be used as a name where it stands. -/
def checkUnreserved (id : Node) : Parse Unit := do
  let name := id.name?.getD ""
  let s ← get
  if s.inGeneratorBody && name == "yield" then complain id.start .yieldInGenerator
  if s.inAsync && name == "await" then complain id.start .awaitInAsync
  if !s.thisScope.holdsVariables && name == "arguments" then complain id.start .argumentsInFieldInitializer
  if s.inStaticBlock && (name == "arguments" || name == "await") then raise id.start (.nameInStaticBlock name)
  if (Keyword.ofText? name).isSome then raise id.start (.unexpectedKeyword name)
  if strictReserved.contains name then
    if !s.inAsync && name == "await" then complain id.start .awaitOutsideAsync
    complain id.start (.reservedWord name)

end Parse

end EcmaModule.Grammar
