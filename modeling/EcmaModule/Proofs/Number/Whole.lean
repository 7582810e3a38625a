import EcmaModule.Proofs.Number.Text
import Mathlib.Data.Nat.Digits.Defs

/-! Whole numbers and their digits.

A whole number below `2^53` is rounded to itself (`ofQuotient_whole`): the exponent chosen for it
leaves its bits in place, and taking the factors of two out of them leads back to it. As its
digits stand for it (`digitsValue_decimal`), it is read back from its text (`number_int`). -/
namespace EcmaModule

namespace Number

/-! ### Rounding -/

theorem powTwo_eq (k : Nat) : powTwo k = 2 ^ k := rfl

theorem roundDiv_one (n : Nat) : roundDiv n 1 = n := by
  simp [roundDiv, Nat.mod_one]

/-- Taken apart, a number is an odd one times a power of two. -/
theorem oddPart_spec {m fuel : Nat} (hm : m ≠ 0) (hfuel : m < 2 ^ fuel) (e : Int) :
    ∃ j : Nat, (oddPart fuel m e).2 = e + j ∧ (oddPart fuel m e).1 * 2 ^ j = m ∧
      (oddPart fuel m e).1 % 2 = 1 := by
  fun_induction oddPart fuel m e with
  | case1 => omega
  | case2 fuel m e heven ih =>
    obtain ⟨j, hexponent, hproduct, hodd⟩ := ih (by omega) (by rw [Nat.pow_succ] at hfuel; omega)
    refine ⟨j + 1, by omega, ?_, hodd⟩
    rw [Nat.pow_succ, ← Nat.mul_assoc, hproduct]
    omega
  | case3 fuel m e hodd => exact ⟨0, by omega, by omega, by omega⟩

/-- Factors of two that only make up for the exponent do not change the number. -/
theorem ofDyadic_shifted {k : Nat} (hk : k ≠ 0) (hlt : k < intBound) (negative : Bool) (s : Nat) :
    ofDyadic negative (k * 2 ^ s) (-(s : Int)) = int (if negative then -(k : Int) else k) := by
  have hm : k * 2 ^ s ≠ 0 := Nat.mul_ne_zero hk (Nat.ne_of_gt (Nat.two_pow_pos s))
  obtain ⟨j, hexponent, hproduct, hodd⟩ := oddPart_spec hm Nat.lt_log2_self (-(s : Int))
  -- All factors of two that were put in come out again.
  have hsj : s ≤ j := by
    by_contra hjs
    have hsplit : k * 2 ^ s = k * 2 ^ (s - j) * 2 ^ j := by
      rw [Nat.mul_assoc, ← Nat.pow_add, Nat.sub_add_cancel (by omega)]
    have heq := Nat.eq_of_mul_eq_mul_right (Nat.two_pow_pos j) (hproduct.trans hsplit)
    have heven : 2 ∣ k * 2 ^ (s - j) :=
      Nat.dvd_mul_left_of_dvd (dvd_pow_self 2 (by omega)) k
    omega
  have hk' : (oddPart ((k * 2 ^ s).log2 + 1) (k * 2 ^ s) (-(s : Int))).1 * 2 ^ (j - s) = k := by
    refine Nat.eq_of_mul_eq_mul_right (Nat.two_pow_pos s) ?_
    rw [Nat.mul_assoc, ← Nat.pow_add, Nat.sub_add_cancel hsj, hproduct]
  have hshift : (-(s : Int) + j).toNat = j - s := by omega
  have hsmall : j - s < 53 := by
    refine (Nat.pow_lt_pow_iff_right (show 1 < 2 by decide)).mp (Nat.lt_of_le_of_lt ?_ hlt)
    exact Nat.le_of_dvd (Nat.pos_of_ne_zero hk) ⟨_, (Nat.mul_comm ..).trans hk' |>.symm⟩
  rw [ofDyadic, if_neg hm]
  simp only [hexponent, hshift, powTwo_eq, hk']
  rw [if_pos ⟨by omega, by omega, hlt⟩]

/-- **A whole number below the bound is rounded to itself.** -/
theorem ofQuotient_whole {k : Nat} (hk : k ≠ 0) (hlt : k < intBound) (negative : Bool) :
    ofQuotient negative k 1 = int (if negative then -(k : Int) else k) := by
  have hlog : k.log2 < 53 := (Nat.log2_lt hk).mpr hlt
  have hone : Nat.log2 1 = 0 := by decide
  have hguess : ((k.log2 : Int) - Nat.log2 1) = k.log2 := by omega
  have hbelow : ¬ k < 1 * powTwo k.log2 := by
    rw [Nat.one_mul, powTwo_eq]
    exact Nat.not_lt.mpr (Nat.log2_self_le hk)
  have hexponent : max ((k.log2 : Int) - 52) (-1074) = -((52 - k.log2 : Nat) : Int) := by omega
  have hscaled : roundScaled k 1 (-((52 - k.log2 : Nat) : Int)) = k * 2 ^ (52 - k.log2) := by
    unfold roundScaled
    split
    · have hzero : 52 - k.log2 = 0 := by omega
      simp [hzero, powTwo_eq, roundDiv_one]
    · simp [powTwo_eq, roundDiv_one]
  have hm : k * 2 ^ (52 - k.log2) ≠ 0 := Nat.mul_ne_zero hk (Nat.ne_of_gt (Nat.two_pow_pos _))
  have hbits : (k * 2 ^ (52 - k.log2)).log2 < 53 := by
    refine (Nat.log2_lt hm).mpr ?_
    calc k * 2 ^ (52 - k.log2) < 2 ^ (k.log2 + 1) * 2 ^ (52 - k.log2) :=
          Nat.mul_lt_mul_of_pos_right Nat.lt_log2_self (Nat.two_pow_pos _)
      _ = 2 ^ 53 := by rw [← Nat.pow_add]; congr 1; omega
  rw [ofQuotient, if_neg hk]
  simp only [hguess, Int.toNat_natCast, if_pos (Int.natCast_nonneg _), hbelow, decide_false,
    Bool.false_eq_true, if_false, hexponent, hscaled]
  rw [if_neg (by omega)]
  exact ofDyadic_shifted hk hlt negative _

end Number

namespace Text

/-! ### Digits -/

theorem digitsValue_concat (t : Text) (u : UInt16) :
    Value.digitsValue (t ++ [u]) = Value.digitsValue t * 10 + (u.toNat - 0x30) := by
  simp [Value.digitsValue]

theorem toNat_digitChar : ∀ d < 10, (digitUnit (Nat.digitChar d)).toNat - 0x30 = d := by decide

/-- The decimal digits of a number stand for it. -/
theorem digitsValue_decimal (n : Nat) : Value.digitsValue (decimal n) = n := by
  induction n using Nat.strongRecOn with
  | ind n ih =>
    rcases Nat.lt_or_ge n 10 with hlt | hge
    · rw [decimal, Nat.toDigits_of_lt_base hlt]
      exact (digitsValue_concat [] _).trans (by rw [toNat_digitChar n hlt]; exact Nat.zero_add n)
    · have hsplit : decimal n = decimal (n / 10) ++ [digitUnit (Nat.digitChar (n % 10))] := by
        rw [decimal, Nat.toDigits_of_base_le (by decide) hge, List.map_append]
        rfl
      rw [hsplit, digitsValue_concat, ih (n / 10) (by omega), toNat_digitChar _ (Nat.mod_lt n (by decide))]
      omega

end Text

namespace Json

open Text

/-! ### Texts of whole numbers -/

/-- The digits of a whole number, with a sign. -/
def Numeral.ofNat (negative : Bool) (k : Nat) : Numeral where
  negative := negative
  whole := decimal k
  part := []
  exponent := none
  whole_digits := decimal_digits k
  whole_ne := decimal_ne_nil k
  whole_lead := fun hzero => by
    by_cases h : k = 0
    · rw [h]
      rfl
    · exact absurd hzero (decimal_head h)
  part_digits := fun _ h => absurd h List.not_mem_nil
  exponent_digits := nofun
  exponent_ne := nofun

theorem Numeral.ofNat_value {k : Nat} (hlt : k < Number.intBound) (negative : Bool)
    (hsign : k = 0 → negative = false) :
    (Numeral.ofNat negative k).value = .int (if negative then -(k : Int) else k) := by
  have hdigits : Value.digitsValue (decimal k ++ []) = k := by rw [List.append_nil, digitsValue_decimal]
  show Number.ofDecimal negative (Value.digitsValue (decimal k ++ [])) (0 - 0) = _
  rw [hdigits, Number.ofDecimal]
  by_cases hk : k = 0
  · rw [if_pos hk, hk, hsign hk]
    rfl
  · have hlength : (Nat.toDigits 10 k).length ≤ 16 :=
      Nat.toDigits_length 10 k 16 (by decide) (Nat.lt_trans hlt (by decide))
    have hscale : k * Number.powTen (0 - 0 : Int).toNat = k := Nat.mul_one k
    simp only [if_neg hk]
    rw [if_neg (by omega), if_neg (by omega), if_pos (by omega), hscale]
    exact Number.ofQuotient_whole hk hlt negative

/-- **A whole number below the bound is read back from its text.** -/
theorem number_int {n : Int} (h : n.natAbs < Number.intBound) :
    ∃ numeral : Numeral, numeral.text = (Number.int n).toText ∧ numeral.value = .int n := by
  cases n with
  | ofNat k =>
    refine ⟨.ofNat false k, ?_, Numeral.ofNat_value h false fun _ => rfl⟩
    exact (List.append_nil _).trans (ofString_toString k).symm
  | negSucc k =>
    refine ⟨.ofNat true (k + 1), ?_, Numeral.ofNat_value h true nofun⟩
    show 0x2D :: (decimal (k + 1) ++ []) = ofString ("-" ++ toString (k + 1))
    rw [ofString_append, ofString_toString, List.append_nil]
    rfl

end Json

end EcmaModule
