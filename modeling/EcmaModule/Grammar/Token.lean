import EcmaModule.Number.Basic
import EcmaModule.Text.Basic

/-! Tokens: their kinds, their values, and what their kinds decide.

A kind says whether an expression may start with the token, whether one is expected
after it, and how a binary operator binds. -/
namespace EcmaModule.Grammar

/-! ### Kinds -/

/-- The reserved words of module code. -/
inductive Keyword where
  | breakK | caseK | catchK | continueK | debuggerK | defaultK | doK | elseK | finallyK | forK | functionK | ifK
  | returnK | switchK | throwK | tryK | varK | constK | whileK | withK | newK | thisK | superK | classK | extendsK
  | exportK | importK | nullK | trueK | falseK | inK | instanceofK | typeofK | voidK | deleteK
  deriving DecidableEq, Repr

namespace Keyword

def text : Keyword → String
  | breakK => "break"
  | caseK => "case"
  | catchK => "catch"
  | continueK => "continue"
  | debuggerK => "debugger"
  | defaultK => "default"
  | doK => "do"
  | elseK => "else"
  | finallyK => "finally"
  | forK => "for"
  | functionK => "function"
  | ifK => "if"
  | returnK => "return"
  | switchK => "switch"
  | throwK => "throw"
  | tryK => "try"
  | varK => "var"
  | constK => "const"
  | whileK => "while"
  | withK => "with"
  | newK => "new"
  | thisK => "this"
  | superK => "super"
  | classK => "class"
  | extendsK => "extends"
  | exportK => "export"
  | importK => "import"
  | nullK => "null"
  | trueK => "true"
  | falseK => "false"
  | inK => "in"
  | instanceofK => "instanceof"
  | typeofK => "typeof"
  | voidK => "void"
  | deleteK => "delete"

def all : List Keyword :=
  [breakK, caseK, catchK, continueK, debuggerK, defaultK, doK, elseK, finallyK, forK, functionK, ifK, returnK, switchK,
    throwK, tryK, varK, constK, whileK, withK, newK, thisK, superK, classK, extendsK, exportK, importK, nullK, trueK,
    falseK, inK, instanceofK, typeofK, voidK, deleteK]

def ofText? (s : String) : Option Keyword := all.find? fun k => k.text == s

/-- An expression is expected after the word. -/
def beforeExpr : Keyword → Bool
  | caseK | defaultK | doK | elseK | returnK | throwK | newK | extendsK | inK | instanceofK | typeofK | voidK | deleteK => true
  | _ => false

/-- An expression can start with the word. -/
def startsExpr : Keyword → Bool
  | functionK | newK | thisK | superK | classK | importK | nullK | trueK | falseK | typeofK | voidK | deleteK => true
  | _ => false

end Keyword

/-- Words that are tokens of their own when types are read, and identifiers otherwise. -/
inductive TypeWord where
  | assertW | assertsW | globalW | keyofW | readonlyW | uniqueW | abstractW | declareW | enumW | moduleW | namespaceW
  | interfaceW | typeW
  deriving DecidableEq, Repr

namespace TypeWord

def text : TypeWord → String
  | assertW => "assert"
  | assertsW => "asserts"
  | globalW => "global"
  | keyofW => "keyof"
  | readonlyW => "readonly"
  | uniqueW => "unique"
  | abstractW => "abstract"
  | declareW => "declare"
  | enumW => "enum"
  | moduleW => "module"
  | namespaceW => "namespace"
  | interfaceW => "interface"
  | typeW => "type"

def all : List TypeWord :=
  [assertW, assertsW, globalW, keyofW, readonlyW, uniqueW, abstractW, declareW, enumW, moduleW, namespaceW, interfaceW,
    typeW]

def ofText? (s : String) : Option TypeWord := all.find? fun w => w.text == s

/-- A declaration can start with the word. -/
def startsDeclaration : TypeWord → Bool
  | abstractW | declareW | enumW | moduleW | namespaceW | interfaceW | typeW => true
  | _ => false

/-- The word is an operator on types. -/
def isTypeOperator : TypeWord → Bool
  | keyofW | readonlyW | uniqueW => true
  | _ => false

end TypeWord

inductive TokenKind where
  | num | regexp | string | name | privateId | eof
  | bracketL | bracketR | braceL | braceR | parenL | parenR
  | comma | semi | colon | dot | question | questionDot | arrow | ellipsis
  | template | invalidTemplate | backQuote | dollarBraceL
  | eq | assign | incDec | bang
  | logicalOr | logicalAnd | bitOr | bitXor | bitAnd | equality | relational | bitShift | plusMin
  | modulo | star | slash | starstar | coalesce
  | keyword (k : Keyword)
  | typeWord (w : TypeWord)
  | at
  deriving DecidableEq, Repr, Inhabited

namespace TokenKind

/-- An expression is expected after the token. -/
def beforeExpr : TokenKind → Bool
  | bracketL | braceL | parenL | comma | semi | colon | question | arrow | ellipsis | dollarBraceL | eq | assign | bang
  | logicalOr | logicalAnd | bitOr | bitXor | bitAnd | equality | relational | bitShift | plusMin | modulo | star | slash
  | starstar | coalesce => true
  | keyword k => k.beforeExpr
  | _ => false

/-- An expression can start with the token. -/
def startsExpr : TokenKind → Bool
  | num | regexp | string | name | privateId | bracketL | braceL | parenL | backQuote | dollarBraceL | incDec | bang
  | plusMin => true
  | keyword k => k.startsExpr
  | typeWord _ => true
  | _ => false

/-- The token is an assignment operator. -/
def isAssign : TokenKind → Bool
  | eq | assign => true
  | _ => false

/-- The token is an operator before its operand. -/
def isPrefixOp : TokenKind → Bool
  | incDec | bang | plusMin => true
  | keyword k => k == .typeofK || k == .voidK || k == .deleteK
  | _ => false

/-- The token starts a loop. -/
def isLoop : TokenKind → Bool
  | keyword k => k == .doK || k == .forK || k == .whileK
  | _ => false

/-- How tightly a binary operator binds. -/
def precedence? : TokenKind → Option Nat
  | logicalOr => some 1
  | coalesce => some 1
  | logicalAnd => some 2
  | bitOr => some 3
  | bitXor => some 4
  | bitAnd => some 5
  | equality => some 6
  | relational => some 7
  | bitShift => some 8
  | plusMin => some 9
  | modulo | star | slash => some 10
  | keyword k => if k == .inK || k == .instanceofK then some 7 else none
  | _ => none

def keyword? : TokenKind → Option Keyword
  | keyword k => some k
  | _ => none

def isKeyword (t : TokenKind) : Bool := t.keyword?.isSome

/-- A name, or a word that is a name outside types. -/
def isIdentifier : TokenKind → Bool
  | name => true
  | typeWord _ => true
  | _ => false

def isKeywordOrIdentifier (t : TokenKind) : Bool := t.isIdentifier || t.isKeyword

/-- A property can be called by the token as it stands. -/
def isPropertyName (t : TokenKind) : Bool := t.isKeywordOrIdentifier || t == string || t == num

end TokenKind

/-! ### Values -/

/-- What a token carries beside its kind. -/
inductive TokenValue where
  | none
  /-- An identifier, a keyword or an operator. -/
  | word (s : String)
  | string (t : Text)
  | number (n : Number)
  | bigint (n : Int)
  | pattern (source flags : Text)
  deriving DecidableEq, Repr, Inhabited

namespace TokenValue

def word? : TokenValue → Option String
  | word s => some s
  | _ => Option.none

def isWord (v : TokenValue) (s : String) : Bool := v == word s

/-- The operator or word, or nothing. -/
def wordD (v : TokenValue) : String := v.word?.getD ""

end TokenValue

/-! ### Contexts -/

/-- What an open bracket, brace or function belongs to. The scanner needs it to tell a
division from a regular expression and a template's text from code. -/
inductive TokenContext where
  | blockStatement
  | blockExpression
  | templatePart
  | parenStatement
  | parenExpression
  | templateText
  | functionStatement
  | functionExpression
  | generatorExpression
  | generatorStatement
  deriving DecidableEq, Repr, Inhabited

namespace TokenContext

def isExpression : TokenContext → Bool
  | blockExpression | parenExpression | templateText | functionExpression | generatorExpression => true
  | _ => false

def isFunction : TokenContext → Bool
  | functionStatement | functionExpression | generatorExpression | generatorStatement => true
  | _ => false

def isGenerator : TokenContext → Bool
  | generatorExpression | generatorStatement => true
  | _ => false

end TokenContext

end EcmaModule.Grammar
