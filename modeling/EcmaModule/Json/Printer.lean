import EcmaModule.Number.Decimal
import EcmaModule.Value

/-! JSON text of a value.

Strings escape quotes, backslashes, controls and lone surrogates; numbers that are
not finite are `null`; an undefined field is left out and an undefined element is
`null`. A gap indents: with an empty gap the text is compact. -/
namespace EcmaModule.Json

/-! ### Strings -/

def hexDigit (n : Nat) : UInt16 := if n < 10 then (0x30 + n).toUInt16 else (0x57 + n).toUInt16

/-- The escape of a unit by its number, in lower-case hexadecimal. -/
def escapeUnit (u : UInt16) : Text :=
  let n := u.toNat
  [0x5C, 0x75, hexDigit (n / 0x1000), hexDigit (n / 0x100 % 0x10), hexDigit (n / 0x10 % 0x10),
    hexDigit (n % 0x10)]

/-- One code point inside a string literal. -/
def quotePoint (c : Nat) : Text :=
  if c = 0x22 then [0x5C, 0x22]
  else if c = 0x5C then [0x5C, 0x5C]
  else if c = 0x08 then [0x5C, 0x62]
  else if c = 0x0C then [0x5C, 0x66]
  else if c = 0x0A then [0x5C, 0x6E]
  else if c = 0x0D then [0x5C, 0x72]
  else if c = 0x09 then [0x5C, 0x74]
  else if c < 0x20 then escapeUnit c.toUInt16
  else if 0xD800 ≤ c ∧ c ≤ 0xDFFF then escapeUnit c.toUInt16
  else Text.unitsOf c

/-- A string literal. -/
def quote (t : Text) : Text := 0x22 :: (t.codePoints.flatMap quotePoint ++ [0x22])

/-! ### Values -/

/-- The break and indent before an item: nothing in compact text. -/
def lineBreak (gap indent : Text) : Text := if gap.isEmpty then [] else 0x0A :: indent

/-- Items between brackets, one a line when there is a gap; an empty pair stays together. -/
def bracket (opening closing : UInt16) (gap indent : Text) (items : List Text) : Text :=
  match items with
  | [] => [opening, closing]
  | _ =>
    let inner := indent ++ gap
    opening :: (lineBreak gap inner ++
      Text.join (0x2C :: lineBreak gap inner) items ++ lineBreak gap indent ++ [closing])

/-- Whether a value is shown as a field. -/
def isShown : Value → Bool
  | .undefined => false
  | _ => true

mutual

/-- The text of a value at an indent. -/
def printAt (gap indent : Text) : Value → Text
  | .undefined => "null"
  | .null => "null"
  | .bool true => "true"
  | .bool false => "false"
  | .number n =>
    match n with
    | .infinite _ => "null"
    | .notANumber => "null"
    | n => n.toText
  | .bigint _ => "null"
  | .regexp _ _ => "null"
  | .enclosing => "null"
  | .string t => quote t
  | .array items => bracket 0x5B 0x5D gap indent (printItems gap (indent ++ gap) items)
  | .object fields => bracket 0x7B 0x7D gap indent (printFields gap (indent ++ gap) fields)

def printItems (gap indent : Text) : List Value → List Text
  | [] => []
  | v :: rest => printAt gap indent v :: printItems gap indent rest

def printFields (gap indent : Text) : List (Text × Value) → List Text
  | [] => []
  | f :: rest =>
    if isShown f.2 then
      (quote f.1 ++ (if gap.isEmpty then [0x3A] else [0x3A, 0x20]) ++ printAt gap indent f.2) ::
        printFields gap indent rest
    else printFields gap indent rest

end

/-- The text of a value, indented by `gap`. -/
def print (gap : Text) (v : Value) : Text := printAt gap [] v

/-- The text of a value on one line. -/
def compact (v : Value) : Text := print [] v

end EcmaModule.Json
