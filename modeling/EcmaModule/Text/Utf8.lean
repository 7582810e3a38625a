import EcmaModule.Text.Basic

/-! UTF-8: the length, the encoding and two decodings.

A text that holds a lone surrogate has a length (three bytes for it) but no
strict encoding. `decode?` accepts exactly the well-formed byte sequences and
drops one leading byte order mark; `decodeLossy` accepts everything, writing one
replacement character for each maximal malformed part. -/
namespace EcmaModule.Utf8

abbrev Bytes := List UInt8

/-! ### Length and encoding -/

/-- Bytes of one code point; a surrogate counts three. -/
def width (c : Nat) : Nat :=
  if c < 0x80 then 1 else if c < 0x800 then 2 else if c < 0x10000 then 3 else 4

/-- Bytes of a text. -/
def byteLength (t : Text) : Nat := t.codePoints.foldr (fun c n => width c + n) 0

/-- The bytes of one code point, by its width. -/
def encodePoint (c : Nat) : Bytes :=
  if c < 0x80 then [c.toUInt8]
  else if c < 0x800 then [(0xC0 + c / 0x40).toUInt8, (0x80 + c % 0x40).toUInt8]
  else if c < 0x10000 then
    [(0xE0 + c / 0x1000).toUInt8, (0x80 + c / 0x40 % 0x40).toUInt8, (0x80 + c % 0x40).toUInt8]
  else
    [(0xF0 + c / 0x40000).toUInt8, (0x80 + c / 0x1000 % 0x40).toUInt8,
      (0x80 + c / 0x40 % 0x40).toUInt8, (0x80 + c % 0x40).toUInt8]

/-- The replacement character. -/
def replacement : Nat := 0xFFFD

/-- A surrogate code point is replaced, every other one is kept. -/
def scalar (c : Nat) : Nat := if 0xD800 ≤ c ∧ c ≤ 0xDFFF then replacement else c

/-- The bytes of a text; a lone surrogate is written as the replacement character. -/
def encode (t : Text) : Bytes := t.codePoints.flatMap fun c => encodePoint (scalar c)

/-! ### Decoding -/

/-- Where the reader stands inside a character: the tail bytes still owed, the
bits read so far, and the range the next byte must lie in. -/
structure Partial where
  owed : Nat
  bits : Nat
  low : Nat
  high : Nat

/-- What a byte at the start of a character begins. -/
inductive Lead where
  | whole (c : Nat)
  | started (p : Partial)
  | malformed

/-- The first byte of a character decides how many tail bytes follow and, for the
shortest forms, the planes and the surrogate gap, the range of the second byte. -/
def lead (b : Nat) : Lead :=
  if b < 0x80 then .whole b
  else if 0xC2 ≤ b ∧ b ≤ 0xDF then .started ⟨1, b - 0xC0, 0x80, 0xBF⟩
  else if 0xE0 ≤ b ∧ b ≤ 0xEF then
    .started ⟨2, b - 0xE0, if b = 0xE0 then 0xA0 else 0x80, if b = 0xED then 0x9F else 0xBF⟩
  else if 0xF0 ≤ b ∧ b ≤ 0xF4 then
    .started ⟨3, b - 0xF0, if b = 0xF0 then 0x90 else 0x80, if b = 0xF4 then 0x8F else 0xBF⟩
  else .malformed

/-- A tail byte in range adds six bits. -/
def Partial.accepts (p : Partial) (b : Nat) : Bool := p.low ≤ b && b ≤ p.high

def Partial.bitsWith (p : Partial) (b : Nat) : Nat := p.bits * 0x40 + (b - 0x80)

/-- Code points, latest first, of a well-formed byte sequence. -/
def decodeAux (state : Option Partial) (done : List Nat) : Bytes → Option (List Nat)
  | [] => if state.isNone then some done else none
  | byte :: rest =>
    let b := byte.toNat
    match state with
    | none =>
      match lead b with
      | .whole c => decodeAux none (c :: done) rest
      | .started p => decodeAux (some p) done rest
      | .malformed => none
    | some p =>
      if p.accepts b then
        if p.owed ≤ 1 then decodeAux none (p.bitsWith b :: done) rest
        else decodeAux (some ⟨p.owed - 1, p.bitsWith b, 0x80, 0xBF⟩) done rest
      else none

/-- The byte order mark is dropped once. -/
def dropMark : Bytes → Bytes
  | 0xEF :: 0xBB :: 0xBF :: rest => rest
  | bytes => bytes

/-- The text of a well-formed byte sequence, without a leading byte order mark. -/
def decode? (bytes : Bytes) : Option Text :=
  (decodeAux none [] (dropMark bytes)).map fun cs => Text.ofCodePoints cs.reverse

/-- Code points, latest first; a malformed part is one replacement character, and
the byte that breaks a character off starts afresh. -/
def decodeLossyAux (state : Option Partial) (done : List Nat) : Bytes → List Nat
  | [] => if state.isNone then done else replacement :: done
  | byte :: rest =>
    let b := byte.toNat
    let fresh (done : List Nat) : List Nat :=
      match lead b with
      | .whole c => decodeLossyAux none (c :: done) rest
      | .started p => decodeLossyAux (some p) done rest
      | .malformed => decodeLossyAux none (replacement :: done) rest
    match state with
    | none => fresh done
    | some p =>
      if p.accepts b then
        if p.owed ≤ 1 then decodeLossyAux none (p.bitsWith b :: done) rest
        else decodeLossyAux (some ⟨p.owed - 1, p.bitsWith b, 0x80, 0xBF⟩) done rest
      else fresh (replacement :: done)

/-- The text of any byte sequence; a byte order mark stays. -/
def decodeLossy (bytes : Bytes) : Text :=
  Text.ofCodePoints (decodeLossyAux none [] bytes).reverse

end EcmaModule.Utf8
