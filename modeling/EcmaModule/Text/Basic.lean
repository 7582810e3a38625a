/-! Text as a sequence of UTF-16 code units.

Every position the library reports counts code units, and any sequence of code
units is a text: a surrogate without its partner is kept as it is. -/
namespace EcmaModule

/-- A text is the list of its UTF-16 code units. -/
abbrev Text := List UInt16

namespace Text

/-! ### Surrogates -/

/-- First half of a surrogate pair. -/
def isHigh (u : UInt16) : Bool := 0xD800 ≤ u && u ≤ 0xDBFF

/-- Second half of a surrogate pair. -/
def isLow (u : UInt16) : Bool := 0xDC00 ≤ u && u ≤ 0xDFFF

/-- The code point of a surrogate pair. -/
def joinPair (high low : UInt16) : Nat :=
  0x10000 + (high.toNat - 0xD800) * 0x400 + (low.toNat - 0xDC00)

/-- The code units of a code point; a surrogate code point is one unit. -/
def unitsOf (c : Nat) : Text :=
  if c < 0x10000 then [c.toUInt16]
  else [(0xD800 + (c - 0x10000) / 0x400).toUInt16, (0xDC00 + (c - 0x10000) % 0x400).toUInt16]

/-- One step of `codePoints`, from the right: a high half joins the low half after it. -/
def pushUnit (u : UInt16) (rest : List Nat) : List Nat :=
  match rest with
  | c :: tail =>
    if isHigh u && 0xDC00 ≤ c && c ≤ 0xDFFF then joinPair u c.toUInt16 :: tail
    else u.toNat :: rest
  | [] => [u.toNat]

/-- The code points of a text; a surrogate without its partner is a code point of its own. -/
def codePoints (t : Text) : List Nat := t.foldr pushUnit []

/-- The text of a list of code points. -/
def ofCodePoints (cs : List Nat) : Text := cs.flatMap unitsOf

def ofString (s : String) : Text := s.toList.flatMap fun c => unitsOf c.toNat

instance : Coe String Text := ⟨ofString⟩

/-- The text as a string, provided no surrogate stands alone. -/
def toString? (t : Text) : Option String :=
  let cs := t.codePoints
  if cs.all fun c => Nat.isValidChar c then some (String.ofList (cs.map Char.ofNat)) else none

/-- The text of a natural number in decimal. -/
def ofNat (n : Nat) : Text := ofString (toString n)

/-- The text of an integer in decimal. -/
def ofInt (n : Int) : Text := ofString (toString n)

/-! ### Cuts -/

/-- A bound of a cut: a negative one counts from the end, and both ends clamp. -/
def clampBound (length : Nat) (i : Int) : Nat :=
  if i < 0 then (length + i).toNat else min i.toNat length

/-- The units from `lo` up to `hi`, each a bound in the sense of `clampBound`. -/
def slice (t : Text) (lo hi : Int) : Text :=
  let a := clampBound t.length lo
  let b := clampBound t.length hi
  (t.drop a).take (b - a)

/-- Texts joined by a separator. -/
def join (separator : Text) (ts : List Text) : Text := separator.intercalate ts

def replicate (n : Nat) (u : UInt16) : Text := List.replicate n u

/-- The text starts with the units of `lead`. -/
def startsWith (t lead : Text) : Bool := lead.isPrefixOf t

end Text

end EcmaModule
