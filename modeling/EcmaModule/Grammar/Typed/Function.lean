import EcmaModule.Grammar.Typed.Decorator

/-! Functions of typed sources: annotated parameters and results, and functions without a
body. -/
namespace EcmaModule.Grammar.Parse

variable [Descent]

/-! ### Parameters -/

/-- A name or a pattern; the name may be `this`. -/
def typedBindingAtom : Parse Node := do if ← atKeyword .thisK then anyName else plainBindingAtom

/-- The mark of an optional parameter and its type. -/
def setParameterType (n : Node) : Parse Node := do
  let n ←
    if ← eat .question then do
      let t ← types
      if !n.is .identifier && !t.ambient && !t.inType then refuse n.start .optionalPattern
      pure (n.set "optional" (.bool true))
    else pure n
  endHere (← setColonType n)

/-- A pattern with the default that may follow it. A type comes before the default. -/
def typedWithDefault (start : Nat) (loc : Loc) (left : Node) : Parse Node := do
  let n ← withDefault start loc left
  if n.is .assignmentPattern then
    if let some t := n.child? "typeAnnotation" then
      if (n.child? "right").elim false fun r => r.start < t.start then refuse t.start .typeAfterDefault
  return n

/-- A pattern with its type and default, counted from where `r` is. -/
def annotatedElement (r : Reader) : Parse Node := do
  let left ← typedWithDefault r.start r.startLoc (← bindingAtom)
  let left ← setParameterType left
  typedWithDefault left.start left.startLoc left

/-- A parameter that is a property too, if modifiers stand before it. -/
def parameterProperty (r : Reader) (marks element : Node) : Parse Node := do
  if marks.fields.isEmpty then return element
  let set (n : Node) (key : String) : Node := (marks.get? key).elim n fun d => n.set key d
  let n := ["accessibility", "readonly", "override"].foldl set (nodeAt r.start r.startLoc)
  unless element.is .identifier || element.is .assignmentPattern do refuse n.start .parameterPropertyPattern
  finish (n.set "parameter" (.node element)) .tsParameterProperty

/-- One of a list of patterns. -/
def typedBindingElement (allowed : Option Bool) : Parse Node := do
  let ds ← decorators
  let r ← reader
  let marks ← startNode
  let marks ← if allowed.isSome then modifiers marks Modifier.ofParameter else pure marks
  if allowed == some false && !marks.fields.isEmpty then
    refuse r.startLoc.column .misplacedParameterProperty
  let element ← annotatedElement r
  parameterProperty r marks (setDecorators element ds)

/-- A rest with its type. -/
def typedBindingRest : Parse Node := do setParameterType (← restBinding)

/-- The parameters of a function, with the type parameters before them. -/
def typedParameters (n : Node) : Parse Node := do
  parameters (← setTypeParameters n [.constM])

/-! ### Bodies -/

/-- The body of a function. One of a kind that can go without has `bodiless` for its kind
then. -/
def typedFunctionBody (n : Node) (bodiless : Option NodeKind) : Parse Node := do
  let n ← if ← at_ .colon then pure (n.set "returnType" (.node (← resultType .colon))) else pure n
  match bodiless with
  | some k =>
    if ← (return !(← at_ .braceL)) <&&> endsStatement then
      exitScope
      finish n k
    else
      if k == .tsDeclareFunction && (← types).ambient then refuse n.start .ambientBody
      functionBody n false .none
  | none => functionBody n false .none

/-! ### Functions -/

/-- The name of a declared function. -/
def functionName (naming : Naming) : Parse (Option Node) := do
  if naming == .optional then optionalName else some <$> identifier

/-- A function after its keyword. Its name is declared when its body is known. -/
def typedFunction (n : Node) (naming : Naming) (hanging isAsync : Bool) : Parse Node := do
  if (← at_ .star) && hanging then unexpected
  let generator ← eat .star
  let n := initFunction n generator isAsync
  let declared := naming != .expression
  let n ← if declared then do pure (n.set "id" (.ofOption (← functionName naming))) else pure n
  withArrowParameters false do
    let n ← withOwnSuspensions do
      enterScope (functionScope isAsync generator)
      let n ← if declared then pure n else do pure (n.set "id" (.ofOption (← optionalName)))
      typedFunctionBody (← typedParameters n) (if declared then some .tsDeclareFunction else none)
    if declared && !hanging then
      if let some id := n.child? "id" then
        checkSimple id (← if n.has "body" then functionBinding else pure .none)
    finish n (if declared then .functionDeclaration else .functionExpression)

/-- A method from its parameters on. -/
def methodWith (modifiers : Bool) (bodiless : Option NodeKind) (generator isAsync superCall : Bool) : Parse Node := do
  let n := initFunction (← startNode) generator isAsync
  withOwnSuspensions do
    enterScope { functionScope isAsync generator with method := true, derivedConstructor := superCall }
    expect .parenL
    let n := n.set "params" (.holes (← bindingList .parenR false (some modifiers)))
    checkDefaults
    typedFunctionBody n bodiless

/-- A method of an object. -/
def typedMethod (generator isAsync superCall : Bool) : Parse Node := do
  finish (← methodWith false none generator isAsync superCall) .functionExpression

/-- The body of an arrow function whose parameters are set. -/
def arrowBody (n : Node) (head : ForHead) : Parse Node := withArrowParameters false (functionBody n true head)

/-- An arrow function after its arrow; `params` gives its parameters. -/
def arrowWith (n : Node) (params : Node → Parse Node) (isAsync : Bool) (head : ForHead) : Parse Node := do
  let n ← if ← at_ .colon then pure (n.set "returnType" (.node (← colonType))) else pure n
  enterScope { functionScope isAsync false with arrow := true }
  let n := initFunction n false isAsync
  let n ← withOwnSuspensions do
    let n ← params n
    arrowBody n head
  finish n .arrowFunctionExpression

/-- An arrow function whose parameters were read as expressions. -/
def typedArrow (n : Node) (items : List (Option Node)) (isAsync : Bool) (head : ForHead) : Parse Node :=
  arrowWith n (fun n => return n.set "params" (.holes (← assignableList (castElements items) true))) isAsync head

end EcmaModule.Grammar.Parse
