import EcmaModule.Grammar.Cursor

/-! Directives: string statements at the start of a body. -/
namespace EcmaModule.Grammar

namespace Source

/-- The place after the quote that closes a string, an escaped one excepted. -/
def quoteEnd? (s : Source) (quote : Nat) : Nat → Nat → Option Nat
  | 0, _ => none
  | fuel + 1, i =>
    let c := s.unit i
    if c == noUnit then none
    else if c == quote then some (i + 1)
    else if c == 0x5C then if s.unit (i + 1) == noUnit then none else s.quoteEnd? quote fuel (i + 2)
    else s.quoteEnd? quote fuel (i + 1)

/-- The end of the string that starts at `i`. -/
def stringEnd? (s : Source) (i : Nat) : Option Nat :=
  let c := s.unit i
  if c == 0x27 || c == 0x22 then s.quoteEnd? c s.size (i + 1) else none

/-- Units that go on with an expression on the next line. -/
def continuing : List UInt16 := Text.ofString "(\x60.[+-/*%<>=,?^&"

/-- The expression that ends at `stop` goes on at `i`. -/
def goesOn (s : Source) (i : Nat) : Bool :=
  (i < s.size && continuing.contains (s.unit i).toUInt16) || (s.unit i == 0x21 && s.unit (i + 1) == 0x3D)

/-- The strings from `i` on, each a statement, include the one that asks for strict
code. -/
def asksForStrict (s : Source) : Nat → Nat → Bool
  | 0, _ => false
  | fuel + 1, i =>
    let start := s.nextToken i
    match s.stringEnd? start with
    | none => false
    | some stop =>
      let next := s.nextToken stop
      let c := s.unit next
      if s.slice (start + 1) (stop - 1) == Text.ofString "use strict" then
        c == 0x3B || c == 0x7D || (s.hasNewline stop next && !s.goesOn next)
      else s.asksForStrict fuel (if c == 0x3B then next + 1 else next)

end Source

/-- A statement that consists of a string without parentheses. -/
def isDirective (s : Source) (n : Node) : Bool :=
  let c := s.unit n.start
  n.is .expressionStatement && (c == 0x22 || c == 0x27)
    && (n.child? "expression").elim false fun e =>
      e.is .literal && ((e.get "value").value?.bind Value.text?).isSome

/-- The text of a directive: what its string literal is written with. -/
def directiveText (n : Node) : Text :=
  match (n.child? "expression").bind fun e => (e.get "raw").value? with
  | some (.string raw) => (raw.drop 1).dropLast
  | _ => []

/-- Marks the directives among the first statements. -/
def markDirectives (s : Source) : List Node → List Node
  | [] => []
  | n :: rest =>
    if isDirective s n then n.set "directive" (.text (directiveText n)) :: markDirectives s rest else n :: rest

end EcmaModule.Grammar
