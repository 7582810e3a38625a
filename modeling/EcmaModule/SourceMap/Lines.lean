import EcmaModule.Text.Utf8

/-! The lines of a text.

A line ends at a line feed, a carriage return (with a line feed after it, both are
one terminator), a line separator or a paragraph separator. The lines with their
terminators make up the text. -/
namespace EcmaModule

/-- One line: its text and the terminator after it, empty for the last line. -/
structure Line where
  content : Text
  terminator : Text
  deriving DecidableEq, Repr

namespace Text

def isTerminator (u : UInt16) : Bool := u == 0x0A || u == 0x0D || u == 0x2028 || u == 0x2029

/-- Puts a unit in front of the first line. -/
def consLine (u : UInt16) : List Line → List Line
  | [] => [⟨[u], []⟩]
  | l :: rest => ⟨u :: l.content, l.terminator⟩ :: rest

/-- The lines of a text, at least one. -/
def lines : Text → List Line
  | [] => [⟨[], []⟩]
  | 0x0D :: 0x0A :: rest => ⟨[], [0x0D, 0x0A]⟩ :: lines rest
  | u :: rest => if isTerminator u then ⟨[], [u]⟩ :: lines rest else consLine u (lines rest)

end Text

/-- Where a line lies: its first index, the index of its terminator, and its first byte. -/
structure LineSpan where
  start : Nat
  stop : Nat
  byteStart : Nat
  deriving DecidableEq, Repr

namespace LineSpan

/-- The spans of consecutive lines, the first starting at an index and a byte. -/
def layOut (start byteStart : Nat) : List Line → List LineSpan
  | [] => []
  | l :: rest =>
    ⟨start, start + l.content.length, byteStart⟩ ::
      layOut (start + l.content.length + l.terminator.length)
        (byteStart + Utf8.byteLength (l.content ++ l.terminator)) rest

/-- The line table of a text. -/
def ofText (t : Text) : Array LineSpan := (layOut 0 0 t.lines).toArray

/-- The span of a line counted from zero. -/
def get (table : Array LineSpan) (line : Nat) : LineSpan := table.getD line ⟨0, 0, 0⟩

/-- The last line from `lo` to `hi` that starts at or before an index, by halving; `lo`
when there is none. -/
def search (table : Array LineSpan) (index : Int) (lo hi : Nat) : Nat :=
  if lo < hi then
    let mid := (lo + hi + 1) / 2
    if ((get table mid).start : Int) ≤ index then search table index mid hi
    else search table index lo (mid - 1)
  else lo
termination_by hi - lo

/-- The line, counted from zero, that holds an index; the first line for an index
before the text. -/
def lineOf (table : Array LineSpan) (index : Int) : Nat := search table index 0 (table.size - 1)

end LineSpan

end EcmaModule
