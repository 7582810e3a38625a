/-! Binary64 numbers over exact integers.

A number is an integer below `2^53` in magnitude, negative zero, another finite
value `± significand · 2^exponent`, an infinity, or not a number. Every finite
value has one form, so equality of numbers is equality of terms, and all
arithmetic on them is exact arithmetic followed by one rounding to the nearest
value, a tie going to the even significand. -/
namespace EcmaModule

inductive Number where
  /-- An integer of magnitude below `2^53`. -/
  | int (n : Int)
  | negativeZero
  /-- Any other finite value; the significand is odd. -/
  | dyadic (negative : Bool) (significand : Nat) (exponent : Int)
  | infinite (negative : Bool)
  | notANumber
  deriving DecidableEq, Repr, Inhabited

namespace Number

/-! ### Powers of the two bases -/

def powTwo (k : Nat) : Nat := Nat.pow 2 k

def powTen (k : Nat) : Nat := Nat.pow 10 k

/-! ### Rounding -/

/-- Integers below this magnitude have the form `int`. -/
def intBound : Nat := powTwo 53

/-- Halves an even positive number until it is odd; `fuel` bounds the halvings. -/
def oddPart : Nat → Nat → Int → Nat × Int
  | 0, m, e => (m, e)
  | fuel + 1, m, e => if m % 2 = 0 then oddPart fuel (m / 2) (e + 1) else (m, e)

/-- The number `± m · 2^e`, for a significand of at most 53 bits. -/
def ofDyadic (negative : Bool) (m : Nat) (e : Int) : Number :=
  if m = 0 then if negative then negativeZero else int 0
  else
    let (m, e) := oddPart (m.log2 + 1) m e
    if 0 ≤ e ∧ e ≤ 53 ∧ m * powTwo e.toNat < intBound then
      let n : Int := (m * powTwo e.toNat : Nat)
      int (if negative then -n else n)
    else dyadic negative m e

/-- Rounds a quotient to the nearest integer, a tie to the even one. -/
def roundDiv (num den : Nat) : Nat :=
  let q := num / den
  let r := num % den
  if 2 * r < den then q
  else if 2 * r > den then q + 1
  else if q % 2 = 0 then q else q + 1

/-- `num · 2^(-e) / den`, rounded. -/
def roundScaled (num den : Nat) (e : Int) : Nat :=
  if 0 ≤ e then roundDiv num (den * powTwo e.toNat) else roundDiv (num * powTwo (-e).toNat) den

/-- The number nearest to `± num / den`. The exponent of the last place is the one
that leaves 53 bits, but never below `-1074`; from `2^1024` on the value is infinite. -/
def ofQuotient (negative : Bool) (num den : Nat) : Number :=
  if num = 0 then if negative then negativeZero else int 0
  else
    let guess : Int := (num.log2 : Int) - den.log2
    -- `2^guess / 2 < num / den < 2^guess * 2`
    let below : Bool :=
      if 0 ≤ guess then num < den * powTwo guess.toNat else num * powTwo (-guess).toNat < den
    let magnitude : Int := if below then guess - 1 else guess
    let e : Int := max (magnitude - 52) (-1074)
    let m := roundScaled num den e
    if e + (m.log2 : Int) ≥ 1024 then infinite negative
    else ofDyadic negative m e

def ofInt (n : Int) : Number :=
  if n.natAbs < intBound then int n else ofQuotient (n < 0) n.natAbs 1

def ofNat (n : Nat) : Number := ofInt n

/-- The number nearest to `± digits · 10^exponent`. -/
def ofDecimal (negative : Bool) (digits : Nat) (exponent : Int) : Number :=
  -- Beyond these bounds the value is infinite or zero whatever the digits are.
  let size : Int := (Nat.toDigits 10 digits).length + exponent
  if digits = 0 then ofQuotient negative 0 1
  else if size > 400 then infinite negative
  else if size < -400 then ofQuotient negative 0 1
  else if 0 ≤ exponent then ofQuotient negative (digits * powTen exponent.toNat) 1
  else ofQuotient negative digits (powTen (-exponent).toNat)

/-! ### Exact views -/

/-- Sign, significand and exponent of a finite number. -/
def toDyadic? : Number → Option (Bool × Nat × Int)
  | int n => some (n < 0, n.natAbs, 0)
  | negativeZero => some (true, 0, 0)
  | dyadic s m e => some (s, m, e)
  | _ => none

/-- The integer part, toward zero; `none` when the number is not finite. -/
def truncate? (x : Number) : Option Int :=
  x.toDyadic?.map fun (s, m, e) =>
    let n : Nat := if 0 ≤ e then m * powTwo e.toNat else m / powTwo (-e).toNat
    if s then -(n : Int) else n

/-- The integer part used as an index: not a number counts as zero, an infinity as
an index beyond every text. -/
def toIndex (x : Number) : Int :=
  match x with
  | infinite true => -(powTwo 64 : Int)
  | infinite false => powTwo 64
  | _ => x.truncate?.getD 0

/-! ### Comparison -/

/-- Whether the first of two finite dyadics is the smaller. -/
def dyadicLt (a b : Bool × Nat × Int) : Bool :=
  let low := min a.2.2 b.2.2
  let scaled (d : Bool × Nat × Int) : Int :=
    let n : Int := (d.2.1 * powTwo (d.2.2 - low).toNat : Nat)
    if d.1 then -n else n
  scaled a < scaled b

/-- Strictly smaller as real numbers; never so when either side is not a number. -/
def lt (x y : Number) : Bool :=
  match x, y with
  | notANumber, _ => false
  | _, notANumber => false
  | infinite true, infinite true => false
  | infinite true, _ => true
  | _, infinite true => false
  | infinite false, _ => false
  | _, infinite false => true
  | _, _ =>
    match x.toDyadic?, y.toDyadic? with
    | some a, some b => dyadicLt a b
    | _, _ => false

/-! ### Accumulating digits -/

/-- `x · radix + digit` for a non-negative number, rounded once after the product
and once after the sum. -/
def pushDigit (x : Number) (radix digit : Nat) : Number :=
  match x.toDyadic? with
  | none => x
  | some (_, m, e) =>
    let product :=
      if 0 ≤ e then ofQuotient false (m * radix * powTwo e.toNat) 1
      else ofQuotient false (m * radix) (powTwo (-e).toNat)
    match product.toDyadic? with
    | none => product
    | some (_, m, e) =>
      if 0 ≤ e then ofQuotient false (m * powTwo e.toNat + digit) 1
      else ofQuotient false (m + digit * powTwo (-e).toNat) (powTwo (-e).toNat)

end Number

end EcmaModule
