import EcmaModule.Json.Reader
import Mathlib.Data.List.TakeDrop

/-! Numbers, part by part.

A numeral is a sign, digits without a leading zero, digits behind a point, and an
exponent. Whatever follows it and does not go on it, a reader takes a numeral for the
number its digits stand for (`number_numeral`). -/
namespace EcmaModule.Json

/-- All units of a text are decimal digits. -/
def AllDigits (t : Text) : Prop := ∀ u ∈ t, Value.isDigit u = true

/-- The parts of a number. The exponent has a sign, and digits of its own. -/
structure Numeral where
  negative : Bool
  whole : Text
  part : Text
  exponent : Option (Bool × Text)
  whole_digits : AllDigits whole
  whole_ne : whole ≠ []
  /-- No leading zero. -/
  whole_lead : whole.head? = some 0x30 → whole.length = 1
  part_digits : AllDigits part
  exponent_digits : ∀ e ∈ exponent, AllDigits e.2
  exponent_ne : ∀ e ∈ exponent, e.2 ≠ []

/-- Digits behind a point; no point without digits. -/
def pointed (part : Text) : Text := if part = [] then [] else 0x2E :: part

/-- An exponent behind its mark. -/
def marked : Option (Bool × Text) → Text
  | none => []
  | some (negative, ds) => 0x65 :: (if negative then 0x2D else 0x2B) :: ds

namespace Numeral

def unsigned (n : Numeral) : Text := n.whole ++ (pointed n.part ++ marked n.exponent)

def text (n : Numeral) : Text := if n.negative then 0x2D :: n.unsigned else n.unsigned

/-- The power of ten that the exponent names. -/
def power (n : Numeral) : Int :=
  match n.exponent with
  | none => 0
  | some (negative, ds) => if negative then -(Value.digitsValue ds : Int) else Value.digitsValue ds

def value (n : Numeral) : Number :=
  .ofDecimal n.negative (Value.digitsValue (n.whole ++ n.part)) (n.power - n.part.length)

end Numeral

/-! ### Ends of a number -/

/-- The text does not start with a digit. -/
def NoDigit (rest : Text) : Prop := ∀ u ∈ rest.head?, Value.isDigit u = false

/-- The text does not go on a number. -/
structure Delimited (rest : Text) : Prop where
  digit : NoDigit rest
  point : rest.head? ≠ some 0x2E
  mark : rest.head? ≠ some 0x65 ∧ rest.head? ≠ some 0x45

theorem spanDigits_append {ds rest : Text} (hds : AllDigits ds) (hrest : NoDigit rest) :
    spanDigits (ds ++ rest) = (ds, rest) := by
  have htake : rest.takeWhile Value.isDigit = [] := by
    cases rest with
    | nil => rfl
    | cons u tail => exact List.takeWhile_cons_of_neg (by simp [hrest u rfl])
  have hdrop : rest.dropWhile Value.isDigit = rest := by
    cases rest with
    | nil => rfl
    | cons u tail => exact List.dropWhile_cons_of_neg (by simp [hrest u rfl])
  rw [spanDigits, List.span_eq_takeWhile_dropWhile, List.takeWhile_append_of_pos hds,
    List.dropWhile_append_of_pos hds, htake, hdrop, List.append_nil]

theorem noDigit_marked (exponent : Option (Bool × Text)) {rest : Text} (hrest : NoDigit rest) :
    NoDigit (marked exponent ++ rest) := by
  cases exponent with
  | none => exact hrest
  | some e =>
    intro u hu
    obtain rfl : 0x65 = u := Option.some.inj hu
    decide

theorem noDigit_pointed (part : Text) {rest : Text} (hrest : NoDigit rest) :
    NoDigit (pointed part ++ rest) := by
  unfold pointed
  split
  · exact hrest
  · intro u hu
    obtain rfl : 0x2E = u := Option.some.inj hu
    decide

/-! ### Reading the parts -/

theorem fraction_absent {t : Text} (h : t.head? ≠ some 0x2E) : fraction? t = some ([], t) := by
  unfold fraction?
  split
  · exact absurd rfl h
  · rfl

theorem fraction_pointed {part rest : Text} (hpart : AllDigits part) (hrest : NoDigit rest)
    (hpoint : rest.head? ≠ some 0x2E) : fraction? (pointed part ++ rest) = some (part, rest) := by
  unfold pointed
  split
  · next hnil =>
    rw [hnil]
    exact fraction_absent hpoint
  · next hne =>
    simp [fraction?, spanDigits_append hpart hrest, hne]

theorem exponent_absent {t : Text} (hlower : t.head? ≠ some 0x65) (hupper : t.head? ≠ some 0x45) :
    exponent? t = some (0, t) := by
  cases t with
  | nil => rfl
  | cons u rest =>
    have hu : (u == 0x65 || u == 0x45) = false := by
      simpa using And.intro (fun h => hlower (congrArg some h)) fun h => hupper (congrArg some h)
    simp [exponent?, hu]

theorem exponent_marked (n : Numeral) {rest : Text} (hrest : Delimited rest) :
    exponent? (marked n.exponent ++ rest) = some (n.power, rest) := by
  unfold Numeral.power
  cases he : n.exponent with
  | none => exact exponent_absent hrest.mark.1 hrest.mark.2
  | some e =>
    obtain ⟨negative, ds⟩ := e
    have hds := spanDigits_append (n.exponent_digits _ he) hrest.digit
    have hne : ds ≠ [] := n.exponent_ne _ he
    cases negative with
    | true => simp [marked, exponent?, hds, hne]
    | false => simp [marked, exponent?, hds, hne]

/-! ### Reading a numeral -/

/-- What stands behind the digits of the whole part is no digit. -/
theorem noDigit_behind (n : Numeral) {rest : Text} (hrest : Delimited rest) :
    NoDigit (pointed n.part ++ (marked n.exponent ++ rest)) :=
  noDigit_pointed n.part (noDigit_marked n.exponent hrest.digit)

theorem marked_point (exponent : Option (Bool × Text)) {rest : Text} (hrest : Delimited rest) :
    (marked exponent ++ rest).head? ≠ some 0x2E := by
  cases exponent with
  | none => exact hrest.point
  | some e => exact fun h => absurd (Option.some.inj h) (by decide)

/-- The whole part is one digit, or it has more and does not start with zero. -/
theorem whole_shape (n : Numeral) :
    (∃ u, n.whole = [u]) ∨ ∃ u v more, n.whole = u :: v :: more ∧ (u == 0x30) = false := by
  cases hwhole : n.whole with
  | nil => exact absurd hwhole n.whole_ne
  | cons u tail =>
    cases tail with
    | nil => exact .inl ⟨u, rfl⟩
    | cons v more =>
      refine .inr ⟨u, v, more, rfl, beq_eq_false_iff_ne.mpr ?_⟩
      rintro rfl
      have hlength := n.whole_lead (by rw [hwhole]; rfl)
      rw [hwhole] at hlength
      exact absurd hlength (by simp)

theorem magnitude_unsigned (n : Numeral) {rest : Text} (hrest : Delimited rest) :
    magnitude? n.negative (n.unsigned ++ rest) = some (n.value, rest) := by
  have hwhole := spanDigits_append n.whole_digits (noDigit_behind n hrest)
  have hpart := fraction_pointed n.part_digits (noDigit_marked n.exponent hrest.digit)
    (marked_point n.exponent hrest)
  have hexponent := exponent_marked n hrest
  have htext : n.unsigned ++ rest = n.whole ++ (pointed n.part ++ (marked n.exponent ++ rest)) := by
    simp only [Numeral.unsigned, List.append_assoc]
  rw [magnitude?, htext, hwhole]
  obtain ⟨u, hone⟩ | ⟨u, v, more, hmore, hu⟩ := whole_shape n
  · simp only [hone, Option.bind_eq_bind, Option.bind_some, hpart, hexponent, Numeral.value]
    rfl
  · simp only [hmore, hu, Option.bind_eq_bind, Option.bind_some, hpart, hexponent, Numeral.value]
    rfl

/-- **A numeral is read as its number**, up to what follows it. -/
theorem number_numeral (n : Numeral) {rest : Text} (hrest : Delimited rest) :
    number? (n.text ++ rest) = some (n.value, rest) := by
  have hread := magnitude_unsigned n hrest
  unfold Numeral.text
  cases hsign : n.negative with
  | true =>
    rw [hsign] at hread
    exact hread
  | false =>
    -- A numeral without a sign starts with a digit.
    rw [hsign] at hread
    obtain ⟨u, tail, hwhole⟩ := List.exists_cons_of_ne_nil n.whole_ne
    have hu : u ≠ 0x2D := by
      rintro rfl
      exact absurd (n.whole_digits 0x2D (by rw [hwhole]; exact List.mem_cons_self)) (by decide)
    rw [Numeral.unsigned, hwhole] at hread ⊢
    show number? (u :: _) = _
    unfold number?
    split
    · next h => exact absurd (List.cons.inj h).1 hu
    · exact hread

end EcmaModule.Json
