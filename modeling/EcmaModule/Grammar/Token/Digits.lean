import EcmaModule.Grammar.State

/-! Digits and numeric literals.

Digits are read in a radix, with separators unless their number is fixed. A misplaced
separator is complained about and otherwise ignored. -/
namespace EcmaModule.Grammar

/-! ### Digits -/

/-- What a unit counts as a digit; letters go on past nine, in whatever radix. -/
def digitOf (c : Nat) : Nat :=
  if 0x61 ≤ c then c - 0x61 + 10
  else if 0x41 ≤ c then c - 0x41 + 10
  else if isDecimalDigit c then c - 0x30
  else noUnit

/-- Digits read so far. -/
structure DigitRun where
  stop : Nat
  /-- The value, rounded after every digit. -/
  total : Number := .int 0
  exact : Nat := 0
  /-- The last unit read. -/
  last : Nat := noUnit
  /-- Latest first. -/
  complaints : List (Nat × Complaint) := []

namespace DigitRun

def push (r : DigitRun) (radix digit c : Nat) : DigitRun :=
  { r with stop := r.stop + 1, total := r.total.pushDigit radix digit, exact := r.exact * radix + digit, last := c }

def separator : Nat := 0x5F

/-- What is wrong with a separator after `r`, which began at `start`. -/
def separatorComplaints (r : DigitRun) (legacyOctal : Bool) (start : Nat) : List Complaint :=
  (if legacyOctal then [.separatorInLegacyOctal] else [])
    ++ (if r.last == separator then [.separatorRepeated] else [])
    ++ (if r.stop == start then [.separatorFirst] else [])

def pushSeparator (r : DigitRun) (legacyOctal : Bool) (start : Nat) : DigitRun :=
  { r with
    stop := r.stop + 1
    last := separator
    complaints := ((r.separatorComplaints legacyOctal start).map fun c => (r.stop, c)).reverse ++ r.complaints }

end DigitRun

/-- Digits and separators of a literal, at most `fuel` of them. -/
def readRun (s : Source) (radix : Nat) (legacyOctal : Bool) (start : Nat) : Nat → DigitRun → DigitRun
  | 0, r => r
  | fuel + 1, r =>
    let c := s.unit r.stop
    if c == DigitRun.separator then readRun s radix legacyOctal start fuel (r.pushSeparator legacyOctal start)
    else if digitOf c < radix then readRun s radix legacyOctal start fuel (r.push radix (digitOf c) c)
    else r

/-- Exactly `count` digits, without separators. -/
def fixedDigits? (s : Source) (radix : Nat) : Nat → Nat → Nat → Nat × Bool × Nat
  | 0, i, total => (i, true, total)
  | count + 1, i, total =>
    let d := digitOf (s.unit i)
    if d < radix then fixedDigits? s radix count (i + 1) (total * radix + d) else (i, false, total)

namespace Parse

/-- Digits of a literal; nothing if there are none. -/
def digits? (radix : Nat) (maybeLegacyOctal : Bool) : Parse (Option DigitRun) := do
  let s ← source
  let start ← pos
  let legacyOctal := maybeLegacyOctal && s.unit start == 0x30
  let r := readRun s radix legacyOctal start s.size { stop := start }
  for (at_, c) in r.complaints.reverse do
    complain at_ c
  moveTo r.stop
  if r.last == DigitRun.separator then complain (r.stop - 1) .separatorLast
  return if r.stop == start then none else some r

/-! ### Literals -/

/-- A text without separators. -/
def withoutSeparators (t : Text) : Text := t.filter fun u => u.toNat != DigitRun.separator

/-- The digits at the front and what follows them. -/
def spanDigits (t : Text) : Text × Text := t.span fun u => isDecimalDigit u.toNat

/-- The exponent after its letter; a missing one is zero. -/
def exponentOf (t : Text) : Int :=
  match t with
  | 0x2D :: rest => -(Value.digitsValue (spanDigits rest).1 : Int)
  | 0x2B :: rest => Value.digitsValue (spanDigits rest).1
  | rest => Value.digitsValue (spanDigits rest).1

/-- The number nearest to a decimal literal. -/
def decimalOf (t : Text) : Number :=
  let (whole, rest) := spanDigits t
  let (fraction, rest) :=
    match rest with
    | 0x2E :: rest => spanDigits rest
    | rest => ([], rest)
  let exponent :=
    match rest with
    | [] => 0
    | _ :: rest => exponentOf rest
  Number.ofDecimal false (Value.digitsValue (whole ++ fraction)) (exponent - fraction.length)

/-- No identifier may follow a number at once. -/
def endOfNumber : Parse Unit := do
  if Identifier.isStart (← peekPoint) then raise (← pos) .identifierAfterNumber

/-- The value of a literal with a radix mark. -/
def radixNumber (radix : Nat) : Parse TokenValue := do
  let start ← pos
  advance 2
  match ← digits? radix false with
  | none => raise ((← Parse.start) + 2) (.numberExpected radix)
  | some r =>
    if (← peek) == 0x6E then
      let literal := (← source).slice start (← pos)
      if (withoutSeparators literal).length == 2 then
        throw (.complaint (.emptyBigInt (withoutSeparators literal)) none none)
      advance
      return .bigint r.exact
    else
      endOfNumber
      return .number r.total

/-- The value of a decimal literal. -/
def decimalNumber (startsWithDot : Bool) : Parse TokenValue := do
  let start ← pos
  unless startsWithDot do
    if (← digits? 10 true).isNone then raise start .invalidNumber
  if 2 ≤ (← pos) - start && (← source).unit start == 0x30 then raise start .invalidNumber
  if !startsWithDot && (← peek) == 0x6E then
    let literal := (← source).slice start (← pos)
    advance
    endOfNumber
    return .bigint (Value.digitsValue (withoutSeparators literal))
  if (← peek) == 0x2E then
    advance
    discard <| digits? 10 false
  let c ← peek
  if c == 0x65 || c == 0x45 then
    advance
    let sign ← peek
    if sign == 0x2B || sign == 0x2D then advance
    if (← digits? 10 false).isNone then raise start .invalidNumber
  endOfNumber
  return .number (decimalOf (withoutSeparators ((← source).slice start (← pos))))

end Parse

end EcmaModule.Grammar
