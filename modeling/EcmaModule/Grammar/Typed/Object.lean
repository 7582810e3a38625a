import EcmaModule.Grammar.Typed.Function

/-! Objects of typed sources: decorated properties and methods with type parameters. -/
namespace EcmaModule.Grammar.Parse

variable [Descent]

/-- What follows the name of a property. Type parameters come to belong to the value. -/
def typedPropertyValue : ReadValue := fun n isPattern generator isAsync r notes escaped => do
  let params ← if ← atLess then some <$> typeParameters [.constM] else pure none
  let n ← propertyValue n isPattern generator isAsync r notes escaped
  return n.modifyChild "value" fun v => setOption v "typeParameters" params

/-- A property of an object with its decorators. -/
def decoratedProperty (notes : Option NotePage) : Parse Node := do
  let ds ← decorators
  let n ← property typedPropertyValue (← startNode) false notes
  if n.is .spreadElement && !ds.isEmpty then refuse n.start .decoratedSpread
  return setDecorators n ds

def typedObject (isPattern : Bool) (notes : Option NotePage) : Parse Node :=
  let one := if isPattern then do property typedPropertyValue (← startNode) true notes else decoratedProperty notes
  objectWith one isPattern notes

end EcmaModule.Grammar.Parse
