import EcmaModule.Proofs.Number.Whole
import Mathlib.Algebra.Order.Field.Power
import Mathlib.Data.Rat.Cast.Order
import Mathlib.Order.WithBot
import Mathlib.Tactic.Ring
import Mathlib.Tactic.Positivity

/-! Comparing numbers.

Numbers compare as the values they stand for, on the line of the rationals with an end on
either side (`lt_iff`). Only what is not a number has no place on it. -/
namespace EcmaModule.Number

/-- The value of a sign, a significand and an exponent. -/
def dyadicValue (d : Bool × Nat × Int) : ℚ := (if d.1 then -(d.2.1 : ℚ) else d.2.1) * 2 ^ d.2.2

/-- The value of a number. -/
def value (x : Number) : WithBot (WithTop ℚ) :=
  match x with
  | infinite true => ⊥
  | infinite false => (⊤ : WithTop ℚ)
  | x => (((x.toDyadic?.map dyadicValue).getD 0 : ℚ) : WithTop ℚ)

/-- An exponent is lowered at the cost of the significand. -/
theorem dyadicValue_lowered (d : Bool × Nat × Int) {low : Int} (h : low ≤ d.2.2) :
    let n : Int := (d.2.1 * powTwo (d.2.2 - low).toNat : Nat)
    dyadicValue d = ((if d.1 then -n else n : Int) : ℚ) * 2 ^ low := by
  intro n
  obtain ⟨k, hk⟩ := Int.le.dest h
  have hn : (n : ℚ) = d.2.1 * 2 ^ k := by
    have hshift : (d.2.2 - low).toNat = k := by omega
    simp [n, hshift, powTwo_eq]
  have hpow : (2 : ℚ) ^ d.2.2 = 2 ^ k * 2 ^ low := by
    rw [← hk, zpow_add₀ two_ne_zero, zpow_natCast, mul_comm]
  unfold dyadicValue
  rw [hpow]
  split
  · rw [Int.cast_neg, hn]
    ring
  · rw [hn]
    ring

theorem dyadicLt_iff (a b : Bool × Nat × Int) : dyadicLt a b = true ↔ dyadicValue a < dyadicValue b := by
  have hpos : (0 : ℚ) < 2 ^ min a.2.2 b.2.2 := by positivity
  rw [dyadicValue_lowered a (min_le_left a.2.2 b.2.2), dyadicValue_lowered b (min_le_right a.2.2 b.2.2),
    mul_lt_mul_iff_left₀ hpos, Int.cast_lt]
  exact decide_eq_true_iff

/-- **Numbers compare as their values.** -/
theorem lt_iff {x y : Number} (hx : x ≠ notANumber) (hy : y ≠ notANumber) :
    x.lt y = true ↔ x.value < y.value := by
  have hbelow (q : ℚ) : ((q : WithTop ℚ) : WithBot (WithTop ℚ)) < ⊤ :=
    WithBot.coe_lt_coe.mpr (WithTop.coe_lt_top q)
  cases x with
  | notANumber => exact absurd rfl hx
  | infinite s =>
    cases y with
    | notANumber => exact absurd rfl hy
    | infinite t => cases s <;> cases t <;> simp [lt, value]
    | int | negativeZero | dyadic => cases s <;> simp [lt, value]
  | int | negativeZero | dyadic =>
    cases y with
    | notANumber => exact absurd rfl hy
    | infinite t => cases t <;> simp [lt, value, hbelow]
    | int | negativeZero | dyadic => simp [lt, value, toDyadic?, dyadicLt_iff]

/-- Neither is the smaller than the other only where they are equal, or cannot be compared. -/
def Differ (x y : Number) : Prop := x.lt y = true ∨ y.lt x = true

theorem lt_number {x y : Number} (h : x.lt y = true) : x ≠ notANumber ∧ y ≠ notANumber := by
  constructor
  · rintro rfl
    cases h
  · rintro rfl
    cases x <;> simp [lt] at h

theorem lt_asymm {x y : Number} (h : x.lt y = true) : y.lt x = false := by
  obtain ⟨hx, hy⟩ := lt_number h
  rw [← Bool.not_eq_true, lt_iff hy hx]
  exact ((lt_iff hx hy).mp h).not_gt

end EcmaModule.Number
