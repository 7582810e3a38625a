import EcmaModule.Text.Basic

/-! What only a typed source can be refused for.

Each complaint is a cause with its parts; the wording is in `TypeComplaint.message`. -/
namespace EcmaModule.Grammar

inductive TypeComplaint where
  -- types
  | emptyArguments
  | emptyParameters
  | escapedAsserts
  | requiredAfterOptional
  | labelNotName
  | mixedLabels
  | readonlyOperand
  | importArgument
  | signatureParameter (kind : String)
  | readonlyMethod
  | accessorTypeParameters
  | accessorThis
  | getterParameters
  | setterParameters
  | setterReturn
  | setterOptional
  | setterRest
  -- patterns and expressions
  | castInParameter
  | typeOnExpression
  | optionalPattern
  | typeAfterDefault
  | memberOfInstantiation
  | templateInChain
  | newImport
  -- modifiers
  | modifierOrder (first second : String)
  | incompatibleModifiers (one other : String)
  | duplicateModifier (word : String)
  | duplicateAccessibility
  | misplacedParameterProperty
  | parameterPropertyPattern
  -- decorators
  | decoratorWithoutClass
  | decoratorWithoutMember
  | decoratedConstructor
  | decoratedSpread
  -- classes
  | modifiedStaticBlock
  | abstractMethodBody (name : Text)
  | abstractFieldValue (name : Text)
  | abstractOutsideClass
  | overrideWithoutSuperclass
  | declaredMethod
  | readonlyClassMethod
  | declaredAccessor (kind : String)
  | constructorTypeParameters
  | privateAbstract
  | privateAccessibility (word : String)
  | indexModifier (word : String)
  | indexAccessibility (word : String)
  | indexOverride
  -- declarations
  | ambientBody
  | ambientValue
  | ambientConstant
  | interfaceWithoutName
  | emptyHeritage (word : String)
  | declareWithoutDeclaration
  -- modules
  | typeImportOfAlias
  | typeImportOfBoth
  | repeatedTypeImport
  | repeatedTypeExport
  | duplicateAttribute
  | attributeNotString
  deriving DecidableEq, Repr

namespace TypeComplaint

/-- Text around a word. -/
def quoting (before word after : String) : Text := Text.ofString (before ++ word ++ after)

def message : TypeComplaint → Text
  | emptyArguments => "Type argument list cannot be empty."
  | emptyParameters => "Type parameter list cannot be empty."
  | escapedAsserts => "Escape sequence in keyword asserts"
  | requiredAfterOptional => "A required element cannot follow an optional element."
  | labelNotName => "Tuple members must be labeled with a simple identifier."
  | mixedLabels => "Tuple members must all have names or all not have names."
  | readonlyOperand => "'readonly' type modifier is only permitted on array and tuple literal types."
  | importArgument => "Argument in a type import must be a string literal."
  | signatureParameter kind =>
    quoting "Name in a signature must be an Identifier, ObjectPattern or ArrayPattern, instead got " kind "."
  | readonlyMethod => "'readonly' modifier can only appear on a property declaration or index signature."
  | accessorTypeParameters => "An accessor cannot have type parameters."
  | accessorThis => "'get' and 'set' accessors cannot declare 'this' parameters."
  | getterParameters => "A 'get' accesor must not have any formal parameters."
  | setterParameters => "A 'set' accesor must have exactly one formal parameter."
  | setterReturn => "A 'set' accessor cannot have a return type annotation."
  | setterOptional => "A 'set' accessor cannot have an optional parameter."
  | setterRest => "A 'set' accessor cannot have rest parameter."
  | castInParameter => "Unexpected type cast in parameter position."
  | typeOnExpression => "Did not expect a type annotation here."
  | optionalPattern => "A binding pattern parameter cannot be optional in an implementation signature."
  | typeAfterDefault =>
    "Type annotations must come before default assignments, e.g. instead of \x60age = 25: number\x60 use \x60age: number = 25\x60."
  | memberOfInstantiation =>
    "Invalid property access after an instantiation expression. You can either wrap the instantiation expression in parentheses, or delete the type arguments."
  | templateInChain => "Tagged Template Literals are not allowed in optionalChain."
  | newImport => "Cannot use new with import()"
  | modifierOrder first second =>
    Text.ofString ("'" ++ first ++ "' modifier must precede '" ++ second ++ "' modifier.")
  | incompatibleModifiers one other =>
    Text.ofString ("'" ++ one ++ "' modifier cannot be used with '" ++ other ++ "' modifier.")
  | duplicateModifier word => quoting "Duplicate modifier: '" word "'."
  | duplicateAccessibility => "Accessibility modifier already seen."
  | misplacedParameterProperty => "A parameter property is only allowed in a constructor implementation."
  | parameterPropertyPattern => "A parameter property may not be declared using a binding pattern."
  | decoratorWithoutClass => "Leading decorators must be attached to a class declaration."
  | decoratorWithoutMember => "Decorators must be attached to a class element."
  | decoratedConstructor =>
    "Decorators can't be used with a constructor. Did you mean '@dec class \x7b ... \x7d'?"
  | decoratedSpread => "Decorators can't be used with SpreadElement"
  | modifiedStaticBlock => "Static class blocks cannot have any modifier."
  | abstractMethodBody name =>
    Text.ofString "Method '" ++ name
      ++ Text.ofString "' cannot have an implementation because it is marked abstract."
  | abstractFieldValue name =>
    Text.ofString "Property '" ++ name
      ++ Text.ofString "' cannot have an initializer because it is marked abstract."
  | abstractOutsideClass => "Abstract methods can only appear within an abstract class."
  | overrideWithoutSuperclass =>
    "This member cannot have an 'override' modifier because its containing class does not extend another class."
  | declaredMethod => "Class methods cannot have the 'declare' modifier."
  | readonlyClassMethod => "Class methods cannot have the 'readonly' modifier."
  | declaredAccessor kind => quoting "'declare' is not allowed in " kind "ters."
  | constructorTypeParameters => "Type parameters cannot appear on a constructor declaration."
  | privateAbstract => "Private elements cannot have the 'abstract' modifier."
  | privateAccessibility word =>
    quoting "Private elements cannot have an accessibility modifier ('" word "')."
  | indexModifier word => quoting "Index signatures cannot have the '" word "' modifier."
  | indexAccessibility word => quoting "Index signatures cannot have an accessibility modifier ('" word "')."
  | indexOverride => "'override' modifier cannot appear on an index signature."
  | ambientBody => "An implementation cannot be declared in ambient contexts."
  | ambientValue => "Initializers are not allowed in ambient contexts."
  | ambientConstant =>
    "A 'const' initializer in an ambient context must be a string or numeric literal or literal enum reference."
  | interfaceWithoutName => "'interface' declarations must be followed by an identifier."
  | emptyHeritage word => quoting "'" word "' list cannot be empty."
  | declareWithoutDeclaration => "'export declare' must be followed by an ambient declaration."
  | typeImportOfAlias => "An import alias can not use 'import type'."
  | typeImportOfBoth => "A type-only import can specify a default import or named bindings, but not both."
  | repeatedTypeImport =>
    "The 'type' modifier cannot be used on a named import when 'import type' is used on its import statement."
  | repeatedTypeExport =>
    "The 'type' modifier cannot be used on a named export when 'export type' is used on its export statement."
  | duplicateAttribute => "Duplicated key in attributes"
  | attributeNotString => "Only string is supported as an attribute value"

end TypeComplaint

end EcmaModule.Grammar
