import EcmaModule.Grammar.Node
import EcmaModule.Text.Identifier

/-! A source under the scanner: units, code points, line ends and blanks.

Reading past the end gives `noUnit`, which lies beyond all code points, so that no
class of characters holds it. -/
namespace EcmaModule.Grammar

/-- A source by code unit. -/
abbrev Source := Array UInt16

/-- What is read past the end. -/
def noUnit : Nat := 0x400000

/-- A unit that ends a line. -/
def isNewline (c : Nat) : Bool := c == 10 || c == 13 || c == 0x2028 || c == 0x2029

/-- A blank beyond ASCII that ends no line, the no-break space excluded. -/
def isWideBlank (c : Nat) : Bool :=
  c == 0x1680 || (0x2000 ≤ c && c ≤ 0x200A) || c == 0x202F || c == 0x205F || c == 0x3000 || c == 0xFEFF

/-- A unit that stands between tokens: a blank or a line end. -/
def isSpace (c : Nat) : Bool :=
  (9 ≤ c && c ≤ 13) || c == 32 || c == 160 || isWideBlank c || isNewline c

def isDecimalDigit (c : Nat) : Bool := 0x30 ≤ c && c ≤ 0x39

/-- A word with the escape sequences of identifiers can start with the code point. -/
def startsWord (c : Nat) : Bool := Identifier.isStart c || c == 0x5C

namespace Source

def unit (s : Source) (i : Nat) : Nat := if h : i < s.size then s[i].toNat else noUnit

/-- The code point at a unit. A first half at the very end has none. -/
def point (s : Source) (i : Nat) : Nat :=
  let high := s.unit i
  if high < 0xD800 || 0xDC00 ≤ high then high
  else
    let low := s.unit (i + 1)
    if low == noUnit then noUnit
    else if low < 0xDC00 || 0xE000 ≤ low then high
    else Text.joinPair high.toUInt16 low.toUInt16

/-- Units of a code point. -/
def width (c : Nat) : Nat := if c ≤ 0xFFFF then 1 else 2

/-- The units from `a` up to `b`. -/
def slice (s : Source) (a b : Nat) : Text := (s.extract a b).toList

/-- The slice as a word; units of identifiers are always whole characters. -/
def word (s : Source) (a b : Nat) : String := (s.slice a b).toString?.getD ""

/-- A line ends between two positions. -/
def hasNewline (s : Source) (i stop : Nat) : Bool :=
  if i < stop then isNewline (s.unit i) || s.hasNewline (i + 1) stop else false
termination_by stop - i

/-- The first unit after the next line end between two positions. -/
def afterNewline? (s : Source) (i stop : Nat) : Option Nat :=
  if i < stop then
    if isNewline (s.unit i) then
      some (if i + 1 < stop && s.unit i == 13 && s.unit (i + 1) == 10 then i + 2 else i + 1)
    else s.afterNewline? (i + 1) stop
  else none
termination_by stop - i

/-- The number of line ends between two positions and the start of the last line. -/
def countLines (s : Source) : Nat → Nat → Nat → Nat → Nat → Nat × Nat
  | 0, _, _, lines, lineStart => (lines, lineStart)
  | fuel + 1, i, stop, lines, lineStart =>
    match s.afterNewline? i stop with
    | some next => s.countLines fuel next stop (lines + 1) next
    | none => (lines, lineStart)

/-- Line and column of a position. -/
def locate (s : Source) (pos : Nat) : Loc :=
  let (lines, lineStart) := s.countLines s.size 0 pos 0 0
  ⟨lines + 1, pos - lineStart⟩

/-- The first place from `i` on where `c` stands. -/
def find? (s : Source) (c : Nat) (i : Nat) : Option Nat :=
  if i < s.size then if s.unit i == c then some i else s.find? c (i + 1) else none
termination_by s.size - i

/-- The first place from `i` on where a block comment ends. -/
def findCommentEnd? (s : Source) (i : Nat) : Option Nat :=
  if i < s.size then
    if s.unit i == 0x2A && s.unit (i + 1) == 0x2F then some i else s.findCommentEnd? (i + 1)
  else none
termination_by s.size - i

/-- The end of the line, or of the source. -/
def lineEnd (s : Source) (i : Nat) : Nat :=
  if i < s.size then if isNewline (s.unit i) then i else s.lineEnd (i + 1) else i
termination_by s.size - i

/-- The first place from `i` on that is neither blank nor in a comment; every step
uses `fuel`. -/
def skipBlank (s : Source) : Nat → Nat → Nat
  | 0, i => i
  | fuel + 1, i =>
    if isSpace (s.unit i) then s.skipBlank fuel (i + 1)
    else if s.unit i == 0x2F && s.unit (i + 1) == 0x2F then s.skipBlank fuel (s.lineEnd (i + 2))
    else if s.unit i == 0x2F && s.unit (i + 1) == 0x2A then
      match s.findCommentEnd? (i + 2) with
      | some stop => s.skipBlank fuel (stop + 2)
      | none => i
    else i

/-- The first place from `i` on where a token can stand. -/
def nextToken (s : Source) (i : Nat) : Nat := s.skipBlank (s.size + 1) i

/-- The end of the word that starts at `i`. -/
def wordEnd (s : Source) : Nat → Nat → Nat
  | 0, i => i
  | fuel + 1, i => if Identifier.isPart (s.point i) then s.wordEnd fuel (i + width (s.point i)) else i

/-- The units of `t` stand at `i`. -/
def hasAt (s : Source) (t : Text) (i : Nat) : Bool := s.slice i (i + t.length) == t

end Source

end EcmaModule.Grammar
