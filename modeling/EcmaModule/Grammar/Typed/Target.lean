import EcmaModule.Grammar.Target
import EcmaModule.Grammar.Typed.Type

/-! Targets of typed sources: casts can be assigned to, and an annotated expression can
become a parameter. -/
namespace EcmaModule.Grammar.Parse

variable [Descent]

/-- An annotated expression as the parameter it turns out to be. -/
def castToParameter (n : Node) : Node :=
  match n.child? "expression", n.child? "typeAnnotation" with
  | some e, some t => (e.set "typeAnnotation" (.node t)).endingAt t.stop t.extent.stopLoc
  | _, _ => n

/-- Elements that are annotated expressions as parameters. -/
def castElements (items : List (Option Node)) : List (Option Node) :=
  items.map fun item => item.map fun i => if i.is .tsTypeCastExpression then castToParameter i else i

/-- An expression as a pattern. -/
def typedAssignable (n : Node) (isBinding : Bool) (notes : Option NotePage) : Parse Node := do
  if n.isCast then
    unless isBinding do refuse n.start .castInParameter
    fieldAssignable n "expression" isBinding notes
  else
    match n.kind with
    | .memberExpression => return n
    | .tsParameterProperty => return n
    | .tsTypeCastExpression => return castToParameter n
    | .arrayExpression => plainAssignable (n.set "elements" (.holes (castElements (elements n "elements")))) isBinding notes
    | .assignmentExpression =>
      let left (l : Node) : Node := if !isBinding && l.is .tsTypeCastExpression then castToParameter l else l
      plainAssignable (n.modifyChild "left" left) isBinding notes
    | _ => plainAssignable n isBinding notes

/-- Checks a target that is no pattern; that of a cast is what it casts. -/
def typedCheckTarget (n : Node) (binding : Binding) (clashes : Option (List String)) :
    Parse (Option (List String)) := do
  if n.isCast then
    match n.child? "expression" with
    | some e => descend (.checkTarget e binding clashes)
    | none => return clashes
  else plainCheckTarget n binding clashes

/-- Checks a part of a pattern. -/
def typedCheckInner (n : Node) (binding : Binding) (clashes : Option (List String)) :
    Parse (Option (List String)) := do
  if n.is .tsParameterProperty then
    match n.child? "parameter" with
    | some p => descend (.checkInnerPattern p binding clashes)
    | none => return clashes
  else plainCheckInner n binding clashes

/-- The expression can become a pattern, or a part of one that is bound. -/
def canBeAssigned : Nat → Node → Bool → Bool
  | 0, _, _ => false
  | fuel + 1, n, isBinding =>
    let inner (key : String) (isBinding : Bool) : Bool :=
      (n.child? key).elim false fun c => canBeAssigned fuel c isBinding
    match n.kind with
    | .tsTypeCastExpression => inner "expression" isBinding
    | .tsParameterProperty => true
    | .identifier => true
    | .objectPattern => true
    | .arrayPattern => true
    | .assignmentPattern => true
    | .restElement => true
    | .objectExpression =>
      let properties := n.children "properties"
      (properties.dropLast.all fun p => !p.is .spreadElement)
        && properties.all fun p => canBeAssigned fuel p false
    | .property => inner "value" false
    | .spreadElement => inner "argument" false
    | .arrayExpression => (n.children "elements").all fun e => canBeAssigned fuel e false
    | .assignmentExpression => n.word? "operator" == some "="
    | .memberExpression => !isBinding
    | _ => false

end EcmaModule.Grammar.Parse
