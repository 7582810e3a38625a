import EcmaModule.Grammar.Complaint.Typed

/-! What a grammar complains about.

Each complaint is a cause with its parts; the wording is in `Complaint.message`. -/
namespace EcmaModule.Grammar

/-- What is wrong with a pattern of a regular expression. -/
inductive PatternComplaint where
  | duplicateGroupName
  | hexDigitsExpected
  | incompleteQuantifier
  | invalidCaptureGroupName
  | invalidCharacterClass
  | invalidClassEscape
  | invalidDecimalEscape
  | invalidEscape
  | invalidGroup
  | invalidNamedCapture
  | invalidNamedReference
  | invalidPropertyName
  | invalidPropertyValue
  | invalidReference
  | invalidUnicodeEscape
  | loneQuantifierBrackets
  | invalidQuantifier
  | nothingToRepeat
  | numbersOutOfOrder
  | rangeOutOfOrder
  | unmatched
  | unterminatedCharacterClass
  | unterminatedGroup
  deriving DecidableEq, Repr

def PatternComplaint.message : PatternComplaint → String
  | duplicateGroupName => "Duplicate capture group name"
  | hexDigitsExpected => "Invalid escape"
  | incompleteQuantifier => "Incomplete quantifier"
  | invalidCaptureGroupName => "Invalid capture group name"
  | invalidCharacterClass => "Invalid character class"
  | invalidClassEscape => "Invalid class escape"
  | invalidDecimalEscape => "Invalid decimal escape"
  | invalidEscape => "Invalid escape"
  | invalidGroup => "Invalid group"
  | invalidNamedCapture => "Invalid named capture referenced"
  | invalidNamedReference => "Invalid named reference"
  | invalidPropertyName => "Invalid property name"
  | invalidPropertyValue => "Invalid property value"
  | invalidReference => "Invalid escape"
  | invalidUnicodeEscape => "Invalid unicode escape"
  | loneQuantifierBrackets => "Lone quantifier brackets"
  | invalidQuantifier => "Invalid quantifier"
  | nothingToRepeat => "Nothing to repeat"
  | numbersOutOfOrder => "numbers out of order in \x7b\x7d quantifier"
  | rangeOutOfOrder => "Range out of order in character class"
  | unmatched => "Unmatched ')'"
  | unterminatedCharacterClass => "Unterminated character class"
  | unterminatedGroup => "Unterminated group"

inductive Complaint where
  -- scanning
  | unexpectedToken
  | unexpectedCharacter (c : Option Nat)
  | unterminatedComment
  | unterminatedPattern
  | unterminatedString
  | unterminatedTemplate
  | unterminatedTemplateLiteral
  | numberExpected (radix : Nat)
  | identifierAfterNumber
  | invalidNumber
  | emptyBigInt (literal : Text)
  | separatorInLegacyOctal
  | separatorRepeated
  | separatorFirst
  | separatorLast
  | codePointOutOfBounds
  | badCharacterEscape
  | invalidEscapeSequence
  | octalInStrictMode
  | unicodeEscapeExpected
  | invalidUnicodeEscape
  | invalidPatternFlag
  | duplicatePatternFlag
  | pattern (source : Text) (c : PatternComplaint)
  | badTemplateEscape
  -- names
  | escapedKeyword (word : String)
  | unexpectedKeyword (word : String)
  | reservedWord (word : String)
  | yieldInGenerator
  | awaitInAsync
  | awaitOutsideAsync
  | argumentsInFieldInitializer
  | nameInStaticBlock (word : String)
  | redeclared (name : String)
  | strictBinding (name : String)
  | strictAssignment (name : String)
  | typeRedeclared (name : String)
  | letBoundLexically
  | argumentNameClash
  -- patterns
  | assigningToRvalue
  | bindingRvalue
  | bindingMember
  | bindingParenthesized
  | chainInLeftHandSide
  | commaAfterRest
  | parenthesizedPattern
  | accessorInPattern
  | restDefault
  | defaultNeedsEquals
  | shorthandOutsidePattern
  | repeatedProto
  -- expressions
  | mixedCoalesce
  | privateNotLeft
  | deletingLocal
  | deletingPrivate
  | chainInNew
  | chainInTag
  | superOutsideMethod
  | superCallOutsideConstructor
  | invalidSuper
  | metaOfImport
  | escapedImportMeta
  | trailingCommaInImport
  | metaOfNew
  | escapedNewTarget
  | newTargetOutsideFunction
  | yieldAsDefault
  | awaitAsDefault
  | getterParameters
  | setterParameters
  | setterRest
  | useStrictWithPatterns
  | privateUndeclared (name : String)
  -- statements
  | unsyntacticJump (word : String)
  | returnOutsideFunction
  | multipleDefaults
  | newlineAfterThrow
  | missingCatch
  | withInStrictMode
  | duplicateLabel (name : String)
  | letBeforeOf
  | initializedLoopVariable (loop : String)
  | patternWithoutInitializer
  -- classes
  | accessorConstructor
  | generatorConstructor
  | asyncConstructor
  | constructorField
  | staticPrototypeMethod
  | staticPrototypeField
  | privateConstructor
  | duplicateConstructor
  -- modules
  | notTopLevel
  | duplicateExport (name : Text)
  | exportUndefined (name : String)
  | exportedString
  | loneSurrogateName
  | typed (c : TypeComplaint)
  deriving DecidableEq, Repr

namespace Complaint

/-- The text of a code point; where there is none, the first code point beyond the
basic plane stands for it. -/
def characterText : Option Nat → Text
  | some c => Text.unitsOf c
  | none => Text.unitsOf 0x10000

/-- A word between two parts of a message. -/
def around (before word after : String) : Text := Text.ofString (before ++ word ++ after)

def message : Complaint → Text
  | unexpectedToken => "Unexpected token"
  | unexpectedCharacter c => Text.ofString "Unexpected character '" ++ characterText c ++ Text.ofString "'"
  | unterminatedComment => "Unterminated comment"
  | unterminatedPattern => "Unterminated regular expression"
  | unterminatedString => "Unterminated string constant"
  | unterminatedTemplate => "Unterminated template"
  | unterminatedTemplateLiteral => "Unterminated template literal"
  | numberExpected radix => around "Expected number in radix " (toString radix) ""
  | identifierAfterNumber => "Identifier directly after number"
  | invalidNumber => "Invalid number"
  | emptyBigInt literal => Text.ofString "Cannot convert " ++ literal ++ Text.ofString " to a BigInt"
  | separatorInLegacyOctal => "Numeric separator is not allowed in legacy octal numeric literals"
  | separatorRepeated => "Numeric separator must be exactly one underscore"
  | separatorFirst => "Numeric separator is not allowed at the first of digits"
  | separatorLast => "Numeric separator is not allowed at the last of digits"
  | codePointOutOfBounds => "Code point out of bounds"
  | badCharacterEscape => "Bad character escape sequence"
  | invalidEscapeSequence => "Invalid escape sequence"
  | octalInStrictMode => "Octal literal in strict mode"
  | unicodeEscapeExpected => "Expecting Unicode escape sequence \\uXXXX"
  | invalidUnicodeEscape => "Invalid Unicode escape"
  | invalidPatternFlag => "Invalid regular expression flag"
  | duplicatePatternFlag => "Duplicate regular expression flag"
  | pattern source c =>
    Text.ofString "Invalid regular expression: /" ++ source ++ Text.ofString ("/: " ++ c.message)
  | badTemplateEscape => "Bad escape sequence in untagged template literal"
  | escapedKeyword word => around "Escape sequence in keyword " word ""
  | unexpectedKeyword word => around "Unexpected keyword '" word "'"
  | reservedWord word => around "The keyword '" word "' is reserved"
  | yieldInGenerator => "Cannot use 'yield' as identifier inside a generator"
  | awaitInAsync => "Cannot use 'await' as identifier inside an async function"
  | awaitOutsideAsync => "Cannot use keyword 'await' outside an async function"
  | argumentsInFieldInitializer => "Cannot use 'arguments' in class field initializer"
  | nameInStaticBlock word => around "Cannot use " word " in class static initialization block"
  | redeclared name => around "Identifier '" name "' has already been declared"
  | strictBinding name => around "Binding " name " in strict mode"
  | strictAssignment name => around "Assigning to " name " in strict mode"
  | typeRedeclared name => around "type '" name "' has already been declared."
  | letBoundLexically => "let is disallowed as a lexically bound name"
  | argumentNameClash => "Argument name clash"
  | assigningToRvalue => "Assigning to rvalue"
  | bindingRvalue => "Binding rvalue"
  | bindingMember => "Binding member expression"
  | bindingParenthesized => "Binding parenthesized expression"
  | chainInLeftHandSide => "Optional chaining cannot appear in left-hand side"
  | commaAfterRest => "Comma is not permitted after the rest element"
  | parenthesizedPattern => "Parenthesized pattern"
  | accessorInPattern => "Object pattern can't contain getter or setter"
  | restDefault => "Rest elements cannot have a default value"
  | defaultNeedsEquals => "Only '=' operator can be used for specifying default value."
  | shorthandOutsidePattern => "Shorthand property assignments are valid only in destructuring patterns"
  | repeatedProto => "Redefinition of __proto__ property"
  | mixedCoalesce => "Logical expressions and coalesce expressions cannot be mixed. Wrap either by parentheses"
  | privateNotLeft => "Private identifier can only be left side of binary expression"
  | deletingLocal => "Deleting local variable in strict mode"
  | deletingPrivate => "Private fields can not be deleted"
  | chainInNew => "Optional chaining cannot appear in the callee of new expressions"
  | chainInTag => "Optional chaining cannot appear in the tag of tagged template expressions"
  | superOutsideMethod => "'super' keyword outside a method"
  | superCallOutsideConstructor => "super() call outside constructor of a subclass"
  | invalidSuper => "Invalid use of 'super'"
  | metaOfImport => "The only valid meta property for import is 'import.meta'"
  | escapedImportMeta => "'import.meta' must not contain escaped characters"
  | trailingCommaInImport => "Trailing comma is not allowed in import()"
  | metaOfNew => "The only valid meta property for new is 'new.target'"
  | escapedNewTarget => "'new.target' must not contain escaped characters"
  | newTargetOutsideFunction => "'new.target' can only be used in functions and class static block"
  | yieldAsDefault => "Yield expression cannot be a default value"
  | awaitAsDefault => "Await expression cannot be a default value"
  | getterParameters => "getter should have no params"
  | setterParameters => "setter should have exactly one param"
  | setterRest => "Setter cannot use rest params"
  | useStrictWithPatterns => "Illegal 'use strict' directive in function with non-simple parameter list"
  | privateUndeclared name => around "Private field '#" name "' must be declared in an enclosing class"
  | unsyntacticJump word => around "Unsyntactic " word ""
  | returnOutsideFunction => "'return' outside of function"
  | multipleDefaults => "Multiple default clauses"
  | newlineAfterThrow => "Illegal newline after throw"
  | missingCatch => "Missing catch or finally clause"
  | withInStrictMode => "'with' in strict mode"
  | duplicateLabel name => around "Label '" name "' is already declared"
  | letBeforeOf => "The left-hand side of a for-of loop may not start with 'let'."
  | initializedLoopVariable loop => around "" loop " loop variable declaration may not have an initializer"
  | patternWithoutInitializer => "Complex binding patterns require an initialization value"
  | accessorConstructor => "Constructor can't have get/set modifier"
  | generatorConstructor => "Constructor can't be a generator"
  | asyncConstructor => "Constructor can't be an async method"
  | constructorField => "Classes can't have a field named 'constructor'"
  | staticPrototypeMethod => "Classes may not have a static property named prototype"
  | staticPrototypeField => "Classes can't have a static field named 'prototype'"
  | privateConstructor => "Classes can't have an element named '#constructor'"
  | duplicateConstructor => "Duplicate constructor in the same class"
  | notTopLevel => "'import' and 'export' may only appear at the top level"
  | duplicateExport name => Text.ofString "Duplicate export '" ++ name ++ Text.ofString "'"
  | exportUndefined name => around "Export '" name "' is not defined"
  | exportedString => "A string literal cannot be used as an exported binding without \x60from\x60."
  | loneSurrogateName => "An export name cannot include a lone surrogate."
  | typed c => c.message

end Complaint

end EcmaModule.Grammar
