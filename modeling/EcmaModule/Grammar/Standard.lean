import EcmaModule.Grammar.Typed.Statement

/-! The grammar of both dialects.

The circle of rules is closed here: a goal is read by its rule, which reaches further
goals with one level of depth less. The depth allowed grows with the source, so that no
source uses it up. -/
namespace EcmaModule.Grammar

namespace Plain

variable [Descent]

/-- The statements that only plain sources have in this form. -/
def statementRules : Parse.StatementRules where
  variableList := Parse.plainVariables
  variableStatement := Parse.plainVariableStatement
  catchParameter := Parse.plainCatchParameter
  openStatement := Parse.plainOpenStatement
  importDeclaration := Parse.plainImport
  exportDeclaration := Parse.plainExport

/-- The rule of a goal in plain sources. -/
def rule {α : Type} : Goal α → Parse α
  | .statement nested topLevel => Parse.statementWith statementRules nested topLevel
  | .expression head notes => Parse.plainExpression head notes
  | .assign head notes _ => Parse.plainAssign head notes
  | .unary notes sawUnary incDec head => Parse.plainUnary notes sawUnary incDec head
  | .binary left start loc precedence head => Parse.plainBinary left start loc precedence head
  | .leftHand notes head => Parse.plainLeftHand notes head
  | .subscripts base start loc noCalls head => Parse.plainSubscripts base start loc noCalls head
  | .atom notes head forNew => Parse.plainAtom notes head forNew
  | .bindingAtom => Parse.plainBindingAtom
  | .bindingElement _ => Parse.bindingWithDefault
  | .bindingRest => Parse.restBinding
  | .spread notes => Parse.plainSpread notes
  | .function n naming hanging isAsync => Parse.plainFunction n naming hanging isAsync
  | .method generator isAsync superCall => Parse.plainMethod generator isAsync superCall
  | .arrow n items isAsync head => Parse.plainArrow n items isAsync head
  | .classNode n naming => Parse.plainClass n naming
  | .object isPattern notes => Parse.plainObject isPattern notes
  | .assignable n isBinding notes => Parse.plainAssignable n isBinding notes
  | .checkPattern n binding clashes => Parse.plainCheckPattern n binding clashes
  | .checkInnerPattern n binding clashes => Parse.plainCheckInner n binding clashes
  | .checkTarget n binding clashes => Parse.plainCheckTarget n binding clashes
  | .checkPatternExport n => Parse.plainCheckPatternExport n
  | .type => Parse.unexpected
  | .typeOperand => Parse.unexpected

end Plain

namespace Typed

variable [Descent]

/-- The rule of a goal in typed sources. -/
def rule {α : Type} : Goal α → Parse α
  | .statement nested topLevel => Parse.typedStatement nested topLevel
  | .assign head notes isItem => Parse.typedAssign head notes isItem
  | .unary notes sawUnary incDec head => Parse.typedUnary notes sawUnary incDec head
  | .binary left start loc precedence head => Parse.typedBinary left start loc precedence head
  | .subscripts base start loc noCalls head => Parse.typedSubscripts base start loc noCalls head
  | .atom notes head forNew => Parse.typedAtom notes head forNew
  | .bindingAtom => Parse.typedBindingAtom
  | .bindingElement modifiers => Parse.typedBindingElement modifiers
  | .bindingRest => Parse.typedBindingRest
  | .spread notes => Parse.typedSpread notes
  | .function n naming hanging isAsync => Parse.typedFunction n naming hanging isAsync
  | .method generator isAsync superCall => Parse.typedMethod generator isAsync superCall
  | .arrow n items isAsync head => Parse.typedArrow n items isAsync head
  | .classNode n naming => Parse.typedClass n naming
  | .object isPattern notes => Parse.typedObject isPattern notes
  | .assignable n isBinding notes => Parse.typedAssignable n isBinding notes
  | .checkInnerPattern n binding clashes => Parse.typedCheckInner n binding clashes
  | .checkTarget n binding clashes => Parse.typedCheckTarget n binding clashes
  | .type => Parse.typeRule
  | .typeOperand => Parse.typeOperandRule
  | goal => Plain.rule goal

end Typed

/-- Reads a goal at most `depth` levels deep. -/
def parse (dialect : Dialect) : Nat → {α : Type} → Goal α → Parse α
  | 0, _, _ => throw .exhausted
  | depth + 1, _, goal =>
    letI : Descent := ⟨fun goal => parse dialect depth goal⟩
    match dialect with
    | .javascript => Plain.rule goal
    | .typescript => Typed.rule goal

/-- A module, read at most `depth` levels deep. -/
def parseModule (dialect : Dialect) (depth : Nat) : Parse Node :=
  letI : Descent := ⟨fun goal => parse dialect depth goal⟩
  Parse.module

/-! ### Runs -/

/-- The place a message ends with. -/
def placeSuffix (s : Source) (pos raisedAt : Option Nat) : Text :=
  match pos, raisedAt with
  | some p, _ =>
    let loc := s.locate p
    Text.ofString s!" ({loc.line}:{loc.column})"
  | none, some _ => " (1:NaN)"
  | none, none => []

/-- What a fault throws. -/
def Fault.thrown (s : Source) : Fault → Thrown
  | .complaint c pos raisedAt =>
    .syntaxError (c.message ++ placeSuffix s pos raisedAt) (pos.map Int.ofNat) (raisedAt.map Int.ofNat)
  | .templateEscape => .other "[object Object]"
  | .broken message => .other message
  | .abandoned => .other "[object Object]"
  | .exhausted => .other "Maximum call stack size exceeded"

/-- The depth allowed for a source. -/
def depthFor (s : Source) : Nat := 64 * s.size + 1000

/-- The grammar of a dialect. -/
def standard : Grammar := fun dialect text =>
  let s : Source := text.toArray
  match (parseModule dialect (depthFor s)).run { dialect := dialect, input := s } with
  | .ok n state => ⟨state.events.reverse, .tree n.toValue⟩
  | .error e state => ⟨state.events.reverse, .thrown (e.thrown s)⟩

end EcmaModule.Grammar
