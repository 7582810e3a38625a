import EcmaModule.Number.Basic
import EcmaModule.Text.Basic

/-! Numbers in decimal: the shortest text that reads back, and reading.

A number is written with the fewest digits that read back as the same number and,
of those, the ones nearest to it, the even ones of two that are equally near. The digits stand in positional notation while
the point falls at most twenty-one places right of the first digit and at most six
zeros follow it on the left; otherwise an exponent with an explicit sign is used. -/
namespace EcmaModule.Number

/-! ### Shortest digits -/

/-- Whether the positive decimal `digits · 10^exponent` reads back as `x`. -/
def readsBack (x : Number) (digits : Nat) (exponent : Int) : Bool :=
  ofDecimal false digits exponent == x

/-- Twice the distance from `m · 2^e` to `digits · 10^exponent`, over a common
denominator that depends on the exponents alone. -/
def distance (m : Nat) (e : Int) (digits : Nat) (exponent : Int) : Nat :=
  let binary : Int := (m * powTwo e.toNat * powTen (-exponent).toNat : Nat)
  let decimal : Int := (digits * powTen exponent.toNat * powTwo (-e).toNat : Nat)
  (binary - decimal).natAbs

/-- Number of decimal places before the point: the least `k` with `m · 2^e < 10^k`. -/
def decimalSize (m : Nat) (e : Int) : Int :=
  let whole := m * powTwo e.toNat
  let scale := powTwo (-e).toNat
  if whole / scale ≥ 1 then (Nat.toDigits 10 (whole / scale)).length
  else
    -- the number of zeros after the point
    let recip := (scale - 1) / whole
    1 - (Nat.toDigits 10 recip).length

/-- On the grid of `10^exponent`, the neighbour of `x` that reads back as `x`, the
nearer one if both do, the even one if neither is nearer. -/
def onGrid? (x : Number) (m : Nat) (e : Int) (exponent : Int) : Option Nat :=
  let floor := (m * powTwo e.toNat * powTen (-exponent).toNat) / (powTwo (-e).toNat * powTen exponent.toNat)
  let lower := readsBack x floor exponent
  let upper := readsBack x (floor + 1) exponent
  match lower, upper with
  | true, true =>
    let below := distance m e floor exponent
    let above := distance m e (floor + 1) exponent
    if above < below ∨ above = below ∧ floor % 2 = 1 then some (floor + 1) else some floor
  | true, false => some floor
  | false, true => some (floor + 1)
  | false, false => none

/-- All digits of `m · 2^e`, and the exponent of the last of them. -/
def exactDecimal (m : Nat) (e : Int) : Nat × Int :=
  (m * powTwo e.toNat * Nat.pow 5 (-e).toNat, min e 0)

/-- The first grid, from one digit on, that holds a decimal reading back as `x`; the
value itself, should `fuel` grids hold none. -/
def firstGrid (x : Number) (m : Nat) (e : Int) (size : Int) : Nat → Nat → Nat × Int
  | 0, _ => exactDecimal m e
  | fuel + 1, count =>
    let exponent := size - count
    match onGrid? x m e exponent with
    | some digits => (digits, exponent)
    | none => firstGrid x m e size fuel (count + 1)

/-- Removes zeros at the end, each raising the exponent. -/
def trimZeros : Nat → Nat → Int → Nat × Int
  | 0, digits, exponent => (digits, exponent)
  | fuel + 1, digits, exponent =>
    if digits % 10 = 0 ∧ digits ≠ 0 then trimZeros fuel (digits / 10) (exponent + 1)
    else (digits, exponent)

/-- Fewest digits, and the exponent of the last of them, of a positive value. -/
def shortest (m : Nat) (e : Int) : Nat × Int :=
  let x := ofDyadic false m e
  let (digits, exponent) := firstGrid x m e (decimalSize m e) 20 1
  trimZeros 25 digits exponent

/-! ### Writing -/

def zeros (n : Nat) : String := String.ofList (List.replicate n '0')

/-- The layout of digits `d` whose last stands at `10^exponent`. -/
def layout (digits : Nat) (exponent : Int) : String :=
  let ds := toString digits
  let count := ds.length
  let point : Int := count + exponent
  if count ≤ point ∧ point ≤ 21 then ds ++ zeros (point - count).toNat
  else if 0 < point ∧ point ≤ 21 then
    String.ofList (ds.toList.take point.toNat) ++ "." ++ String.ofList (ds.toList.drop point.toNat)
  else if -6 < point ∧ point ≤ 0 then "0." ++ zeros (-point).toNat ++ ds
  else
    let shown := point - 1
    let sign := if shown < 0 then "-" else "+"
    let tail := String.ofList (ds.toList.drop 1)
    let mantissa := String.ofList (ds.toList.take 1) ++ (if tail.isEmpty then "" else "." ++ tail)
    mantissa ++ "e" ++ sign ++ toString shown.natAbs

/-- The text of a number; negative zero is written without its sign. -/
def render : Number → String
  | int n => toString n
  | negativeZero => "0"
  | dyadic negative m e =>
    let (digits, exponent) := shortest m e
    (if negative then "-" else "") ++ layout digits exponent
  | infinite negative => if negative then "-Infinity" else "Infinity"
  | notANumber => "NaN"

def toText (x : Number) : Text := x.render

end EcmaModule.Number
