import EcmaModule.Grammar.Typed.Attempt

/-! Modifiers: words before a member, a parameter or a type parameter.

A word is a modifier if something that can be named follows it on its line; else it is a
name itself. Modifiers become fields in the order in which they are written. -/
namespace EcmaModule.Grammar

inductive Modifier where
  | declareM | privateM | publicM | protectedM | accessorM | overrideM | abstractM | readonlyM | staticM | inM | outM
  | constM
  deriving DecidableEq, Repr

namespace Modifier

def text : Modifier → String
  | declareM => "declare"
  | privateM => "private"
  | publicM => "public"
  | protectedM => "protected"
  | accessorM => "accessor"
  | overrideM => "override"
  | abstractM => "abstract"
  | readonlyM => "readonly"
  | staticM => "static"
  | inM => "in"
  | outM => "out"
  | constM => "const"

/-- The modifier says who can reach the member. -/
def isAccess : Modifier → Bool
  | privateM | publicM | protectedM => true
  | _ => false

/-- The modifiers of a class member. -/
def ofMember : List Modifier :=
  [declareM, privateM, publicM, protectedM, accessorM, overrideM, abstractM, readonlyM, staticM]

/-- The modifiers that make a parameter a property. -/
def ofParameter : List Modifier := [publicM, privateM, protectedM, overrideM, readonlyM]

end Modifier

namespace Parse

/-- A property can be named by the current token, on the line of the one before. -/
def canFollowModifier : Parse Bool := do
  let k ← kind
  let names := k == .bracketL || k == .braceL || k == .star || k == .ellipsis || k == .privateId || k.isPropertyName
  return names && !(← newlineBefore)

/-- The current token starts a static block. -/
def atStaticBlock : Parse Bool := atWord "static" <&&> do return (← unitAfter) == 0x7B

/-- The current token as one of the modifiers allowed; a static block is none. -/
def modifier? (allowed : List Modifier) (stopAtBlock : Bool) : Parse (Option Modifier) := do
  let r ← reader
  unless r.kind.isIdentifier || r.kind == .keyword .inK || r.kind == .keyword .constK do return none
  match allowed.find? fun m => r.value.isWord m.text with
  | none => return none
  | some m =>
    if ← (pure stopAtBlock) <&&> atStaticBlock then return none
    if ← perhapsIf (do next; canFollowModifier) then return some m else return none

/-- What the modifier must not come after, and what it excludes. -/
def refuseModifier (pos : Nat) (m : Modifier) (seen : List Modifier) : Parse Unit := do
  let before (first second : Modifier) : Parse Unit := do
    if m == first && seen.contains second then raise pos (.typed (.modifierOrder first.text second.text))
  let without (one other : Modifier) : Parse Unit := do
    if (m == other && seen.contains one) || (m == one && seen.contains other) then
      raise pos (.typed (.incompatibleModifiers one.text other.text))
  if m.isAccess then
    before m .overrideM
    before m .staticM
    before m .readonlyM
  else if m == .inM || m == .outM then before .inM .outM
  else if m == .accessorM then
    without .accessorM .readonlyM
    without .accessorM .overrideM
  else
    before .staticM .readonlyM
    before .staticM .overrideM
    before .overrideM .readonlyM
    before .abstractM .overrideM
    without .declareM .overrideM
    without .staticM .abstractM

/-- The field that a modifier sets. -/
def setModifier (n : Node) (m : Modifier) : Node :=
  if m.isAccess then n.set "accessibility" (.word m.text) else n.set m.text (.bool true)

/-- The modifiers at the current token, set on a node. A modifier in the wrong place is
reported at its column. -/
def modifiers (n : Node) (allowed : List Modifier) (stopAtBlock : Bool := false) : Parse Node := do
  let mut n := n
  let mut seen : List Modifier := []
  for _ in [0 : ← steps] do
    let column := (← startLoc).column
    match ← modifier? allowed stopAtBlock with
    | none => return n
    | some m =>
      if m.isAccess && seen.any Modifier.isAccess then raise (← start) (.typed .duplicateAccessibility)
      if seen.contains m then raise (← start) (.typed (.duplicateModifier m.text))
      refuseModifier column m seen
      n := setModifier n m
      seen := m :: seen
  throw .exhausted

end Parse

end EcmaModule.Grammar
