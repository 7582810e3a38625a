import EcmaModule.Number.Decimal
import EcmaModule.Value

/-! Reading JSON text.

Blanks are space, tab, line feed and carriage return. A lone surrogate escape is
read as it stands, a control inside a string is refused, and a repeated key keeps
its first place and its last value. Nesting is bounded by the length of the text,
which bounds every text that can be read. -/
namespace EcmaModule.Json

/-! ### Blanks and words -/

def isBlank (u : UInt16) : Bool := u == 0x20 || u == 0x09 || u == 0x0A || u == 0x0D

def skipBlank (t : Text) : Text := t.dropWhile isBlank

/-- The rest after a word, if the text starts with it. -/
def word? (w t : Text) : Option Text := if t.startsWith w then some (t.drop w.length) else none

/-! ### Strings -/

def hexValue? (u : UInt16) : Option Nat :=
  if 0x30 ≤ u && u ≤ 0x39 then some (u.toNat - 0x30)
  else if 0x61 ≤ u && u ≤ 0x66 then some (u.toNat - 0x57)
  else if 0x41 ≤ u && u ≤ 0x46 then some (u.toNat - 0x37)
  else none

/-- Four hexadecimal digits. -/
def hexQuad? (a b c d : UInt16) : Option UInt16 := do
  let a ← hexValue? a
  let b ← hexValue? b
  let c ← hexValue? c
  let d ← hexValue? d
  return (a * 0x1000 + b * 0x100 + c * 0x10 + d).toUInt16

/-- The unit that a one-letter escape stands for. -/
def shortEscape? (u : UInt16) : Option UInt16 :=
  if u == 0x22 || u == 0x5C || u == 0x2F then some u
  else if u == 0x62 then some 0x08
  else if u == 0x66 then some 0x0C
  else if u == 0x6E then some 0x0A
  else if u == 0x72 then some 0x0D
  else if u == 0x74 then some 0x09
  else none

/-- The units of a string after its opening quote, latest first in `done`, and the rest. -/
def stringBody? (done : Text) : Text → Option (Text × Text)
  | [] => none
  | 0x22 :: rest => some (done.reverse, rest)
  | 0x5C :: 0x75 :: a :: b :: c :: d :: rest =>
    match hexQuad? a b c d with
    | some u => stringBody? (u :: done) rest
    | none => none
  | 0x5C :: e :: rest =>
    match shortEscape? e with
    | some u => stringBody? (u :: done) rest
    | none => none
  | u :: rest => if u == 0x5C || u < 0x20 then none else stringBody? (u :: done) rest

/-! ### Numbers -/

/-- Leading digits and the rest. -/
def spanDigits (t : Text) : Text × Text := t.span Value.isDigit

/-- The digits of a fraction, if a point stands here; a point needs a digit. -/
def fraction? (t : Text) : Option (Text × Text) :=
  match t with
  | 0x2E :: rest =>
    let (ds, rest) := spanDigits rest
    if ds.isEmpty then none else some (ds, rest)
  | _ => some ([], t)

/-- The value of an exponent, if a mark stands here; a mark needs a digit. -/
def exponent? (t : Text) : Option (Int × Text) :=
  match t with
  | u :: rest =>
    if u == 0x65 || u == 0x45 then
      let (negative, rest) :=
        match rest with
        | 0x2D :: r => (true, r)
        | 0x2B :: r => (false, r)
        | r => (false, r)
      let (ds, rest) := spanDigits rest
      if ds.isEmpty then none
      else
        let n : Int := Value.digitsValue ds
        some (if negative then -n else n, rest)
    else some (0, t)
  | [] => some (0, t)

/-- A number after its sign: an integer part without a leading zero, a fraction, an exponent. -/
def magnitude? (negative : Bool) (t : Text) : Option (Number × Text) := do
  let (whole, rest) := spanDigits t
  let plain ←
    match whole with
    | [] => none
    | [_] => some ()
    | u :: _ => if u == 0x30 then none else some ()
  let _ := plain
  let (part, rest) ← fraction? rest
  let (exponent, rest) ← exponent? rest
  let digits := Value.digitsValue (whole ++ part)
  return (Number.ofDecimal negative digits (exponent - part.length), rest)

def number? (t : Text) : Option (Number × Text) :=
  match t with
  | 0x2D :: rest => magnitude? true rest
  | _ => magnitude? false t

/-! ### Values -/

/-- The items of an array after its first bracket or a comma, latest first in `done`;
`value` reads one value. -/
def items? (value : Text → Option (Value × Text)) : Nat → List Value → Text → Option (List Value × Text)
  | 0, _, _ => none
  | fuel + 1, done, t =>
    match value t with
    | none => none
    | some (v, rest) =>
      match skipBlank rest with
      | 0x2C :: rest => items? value fuel (v :: done) rest
      | 0x5D :: rest => some ((v :: done).reverse, rest)
      | _ => none

/-- A key, its colon, and the value after it. -/
def field? (value : Text → Option (Value × Text)) (t : Text) : Option ((Text × Value) × Text) :=
  match skipBlank t with
  | 0x22 :: rest =>
    match stringBody? [] rest with
    | none => none
    | some (key, rest) =>
      match skipBlank rest with
      | 0x3A :: rest => (value rest).map fun (v, rest) => ((key, v), rest)
      | _ => none
  | _ => none

/-- The fields of an object after its first brace or a comma, latest first in `done`. -/
def fields? (value : Text → Option (Value × Text)) : Nat → Value.Fields → Text → Option (Value.Fields × Text)
  | 0, _, _ => none
  | fuel + 1, done, t =>
    match field? value t with
    | none => none
    | some (f, rest) =>
      match skipBlank rest with
      | 0x2C :: rest => fields? value fuel (f :: done) rest
      | 0x7D :: rest => some ((f :: done).reverse, rest)
      | _ => none

/-- One value, nested at most `fuel` deep, and the rest of the text. -/
def value? : Nat → Text → Option (Value × Text)
  | 0, _ => none
  | fuel + 1, t =>
    match skipBlank t with
    | 0x22 :: rest => (stringBody? [] rest).map fun (s, rest) => (.string s, rest)
    | 0x5B :: rest =>
      match skipBlank rest with
      | 0x5D :: rest => some (.array [], rest)
      | _ => (items? (value? fuel) (rest.length + 1) [] rest).map fun (vs, rest) => (.array vs, rest)
    | 0x7B :: rest =>
      match skipBlank rest with
      | 0x7D :: rest => some (.object [], rest)
      | _ =>
        (fields? (value? fuel) (rest.length + 1) [] rest).map fun (fs, rest) => (.ofFields fs, rest)
    | t =>
      match word? "null" t with
      | some rest => some (.null, rest)
      | none =>
        match word? "true" t with
        | some rest => some (.bool true, rest)
        | none =>
          match word? "false" t with
          | some rest => some (.bool false, rest)
          | none => (number? t).map fun (n, rest) => (.number n, rest)

/-- The value of a JSON text. -/
def read? (t : Text) : Option Value :=
  match value? (t.length + 1) t with
  | some (v, rest) => if (skipBlank rest).isEmpty then some v else none
  | none => none

end EcmaModule.Json
