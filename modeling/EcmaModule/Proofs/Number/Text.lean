import EcmaModule.Proofs.Json.Numeral
import EcmaModule.Proofs.Text.CodePoint
import Mathlib.Data.List.Basic

/-! The text of a number.

Whatever digits a finite number is given, they are laid out as a numeral: no leading zero,
a digit on both sides of a point, a sign and a digit behind the mark of an exponent
(`toText_numeral`). For that the digits of a value that is not zero must not come out as
zero, which holds of every grid they are looked for on (`shortest_ne_zero`). -/
namespace EcmaModule

namespace Text

theorem ofString_append (a b : String) : ofString (a ++ b) = ofString a ++ ofString b := by
  simp [ofString]

/-! ### Decimal digits -/

def digitUnit (c : Char) : UInt16 := c.toNat.toUInt16

/-- The units of a decimal numeral. -/
def decimal (n : Nat) : Text := (Nat.toDigits 10 n).map digitUnit

theorem toNat_digitUnit {c : Char} (h : c.isDigit = true) : (digitUnit c).toNat = c.toNat := by
  obtain ⟨-, hle⟩ := Char.isDigit_iff_toNat.mp h
  have hnine : '9'.toNat = 57 := rfl
  exact toNat_toUInt16 (by omega)

theorem isDigit_digitUnit {c : Char} (h : c.isDigit = true) : Value.isDigit (digitUnit c) = true := by
  obtain ⟨hle, hge⟩ := Char.isDigit_iff_toNat.mp h
  simp only [Value.isDigit, Bool.and_eq_true, decide_eq_true_eq, UInt16.le_iff_toNat_le, toNat_digitUnit h]
  exact ⟨hle, hge⟩

theorem ofString_digits {cs : List Char} (h : ∀ c ∈ cs, c.isDigit = true) :
    ofString (String.ofList cs) = cs.map digitUnit := by
  rw [ofString, String.toList_ofList]
  induction cs with
  | nil => rfl
  | cons c rest ih =>
    obtain ⟨-, hle⟩ := Char.isDigit_iff_toNat.mp (h c List.mem_cons_self)
    have hnine : '9'.toNat = 57 := rfl
    have hsmall : c.toNat < 0x10000 := by omega
    rw [List.flatMap_cons, ih fun d hd => h d (List.mem_cons_of_mem c hd), unitsOf, if_pos hsmall]
    rfl

theorem toDigits_isDigit (n : Nat) : ∀ c ∈ Nat.toDigits 10 n, c.isDigit = true := fun _ hc =>
  Nat.isDigit_of_mem_toDigits (by decide) (by decide) hc

theorem ofString_toString (n : Nat) : ofString (toString n) = decimal n := by
  rw [Nat.toString_eq_ofList_toDigits]
  exact ofString_digits (toDigits_isDigit n)

theorem decimal_digits (n : Nat) : Json.AllDigits (decimal n) := by
  intro u hu
  obtain ⟨c, hc, rfl⟩ := List.mem_map.mp hu
  exact isDigit_digitUnit (toDigits_isDigit n c hc)

theorem decimal_ne_nil (n : Nat) : decimal n ≠ [] :=
  fun h => Nat.toDigits_ne_nil (List.map_eq_nil_iff.mp h)

/-- A number that is not zero does not start with zero. -/
theorem toDigits_head {n : Nat} (h : n ≠ 0) : (Nat.toDigits 10 n).head? ≠ some '0' := by
  induction n using Nat.strongRecOn with
  | ind n ih =>
    rcases Nat.lt_or_ge n 10 with hlt | hge
    · rw [Nat.toDigits_of_lt_base hlt]
      exact fun hhead => h (Nat.digitChar_eq_zero.mp (Option.some.inj hhead))
    · rw [Nat.toDigits_of_base_le (by decide) hge, List.head?_append_of_ne_nil _ Nat.toDigits_ne_nil]
      exact ih (n / 10) (by omega) (by omega)

theorem decimal_head {n : Nat} (h : n ≠ 0) : (decimal n).head? ≠ some 0x30 := by
  rw [decimal, List.head?_map]
  intro hhead
  obtain ⟨c, hc, hunit⟩ := Option.map_eq_some_iff.mp hhead
  have hdigit := toDigits_isDigit n c (List.mem_of_head? hc)
  have hzero : c = '0' := by
    have := toNat_digitUnit hdigit
    rw [hunit] at this
    exact Char.toNat_inj.mp this.symm
  exact toDigits_head h (hzero ▸ hc)

theorem ofString_zeros (n : Nat) : ofString (Number.zeros n) = List.replicate n 0x30 := by
  have hzeros : ∀ c ∈ List.replicate n '0', c.isDigit = true := fun c hc => by
    rw [List.eq_of_mem_replicate hc]
    rfl
  rw [Number.zeros, ofString_digits hzeros, List.map_replicate]
  rfl

theorem length_decimal (n : Nat) : (toString n).length = (decimal n).length := by
  rw [Nat.toString_eq_ofList_toDigits, String.length_ofList, decimal, List.length_map]

theorem ofString_take (n k : Nat) :
    ofString (String.ofList ((toString n).toList.take k)) = (decimal n).take k := by
  rw [Nat.toString_eq_ofList_toDigits, String.toList_ofList, decimal, ← List.map_take]
  exact ofString_digits fun c hc => toDigits_isDigit n c (List.mem_of_mem_take hc)

theorem ofString_drop (n k : Nat) :
    ofString (String.ofList ((toString n).toList.drop k)) = (decimal n).drop k := by
  rw [Nat.toString_eq_ofList_toDigits, String.toList_ofList, decimal, ← List.map_drop]
  exact ofString_digits fun c hc => toDigits_isDigit n c (List.mem_of_mem_drop hc)

end Text

namespace Number

open Json Text

/-! ### Layouts -/

/-- Further digits stand behind a point, if there are any. -/
theorem ofString_tail (n : Nat) :
    let tail := String.ofList ((toString n).toList.drop 1)
    ofString (if tail.isEmpty then "" else "." ++ tail) = pointed ((decimal n).drop 1) := by
  intro tail
  have htail : ofString tail = (decimal n).drop 1 := ofString_drop n 1
  unfold pointed
  by_cases hempty : (decimal n).drop 1 = []
  · have hnone : tail = "" := by
      rw [decimal, ← List.map_drop] at hempty
      rw [show tail = String.ofList _ from rfl, String.ofList_eq_empty_iff,
        Nat.toString_eq_ofList_toDigits, String.toList_ofList]
      exact List.map_eq_nil_iff.mp hempty
    rw [if_pos hempty, hnone]
    rfl
  · have hsome : ¬ tail.isEmpty = true := fun h => hempty (by rw [← htail, String.isEmpty_iff.mp h]; rfl)
    rw [if_neg hempty, if_neg hsome, ofString_append, htail]
    rfl

theorem ofString_sign (p : Prop) [Decidable p] :
    ofString (if p then "-" else "+") = [if decide p then 0x2D else 0x2B] := by
  by_cases h : p
  · rw [if_pos h, decide_eq_true h]
    rfl
  · rw [if_neg h, decide_eq_false h]
    rfl

/-- The layout of digits, unit by unit. -/
theorem ofString_layout (digits : Nat) (exponent : Int) :
    ofString (layout digits exponent) =
      let ds := decimal digits
      let point : Int := ds.length + exponent
      if ds.length ≤ point ∧ point ≤ 21 then ds ++ List.replicate (point - ds.length).toNat 0x30
      else if 0 < point ∧ point ≤ 21 then ds.take point.toNat ++ 0x2E :: ds.drop point.toNat
      else if -6 < point ∧ point ≤ 0 then 0x30 :: 0x2E :: (List.replicate (-point).toNat 0x30 ++ ds)
      else ds.take 1 ++
        (pointed (ds.drop 1) ++ marked (some (decide (point - 1 < 0), decimal (point - 1).natAbs))) := by
  simp only [layout, length_decimal]
  split
  · rw [ofString_append, ofString_toString, ofString_zeros]
  · split
    · rw [ofString_append, ofString_append, ofString_take, ofString_drop, List.append_assoc]
      rfl
    · split
      · rw [ofString_append, ofString_append, ofString_toString, ofString_zeros, List.append_assoc]
        rfl
      · rw [ofString_append, ofString_append, ofString_append, ofString_append, ofString_take,
          ofString_toString, ofString_tail, ofString_sign, List.append_assoc, List.append_assoc,
          List.append_assoc]
        rfl

/-! ### Layouts are numerals -/

theorem allDigits_append {a b : Text} (ha : AllDigits a) (hb : AllDigits b) : AllDigits (a ++ b) :=
  fun u hu => (List.mem_append.mp hu).elim (ha u) (hb u)

theorem allDigits_zeros (n : Nat) : AllDigits (List.replicate n 0x30) := fun u hu => by
  rw [List.eq_of_mem_replicate hu]
  rfl

/-- A text is a number's, but for the sign. -/
def Unsigned (t : Text) : Prop := ∀ negative, ∃ n : Numeral, n.negative = negative ∧ n.unsigned = t

theorem unsigned_whole {whole : Text} (hdigits : AllDigits whole) (hne : whole ≠ [])
    (hhead : whole.head? = some 0x30 → whole.length = 1) : Unsigned whole := fun negative =>
  ⟨⟨negative, whole, [], none, hdigits, hne, hhead, fun _ h => absurd h List.not_mem_nil,
    fun _ h => absurd h (by simp), fun _ h => absurd h (by simp)⟩, rfl, List.append_nil whole⟩

theorem unsigned_pointed {whole part : Text} (hdigits : AllDigits whole) (hne : whole ≠ [])
    (hhead : whole.head? = some 0x30 → whole.length = 1) (hpart : AllDigits part) (hpne : part ≠ []) :
    Unsigned (whole ++ 0x2E :: part) := fun negative =>
  ⟨⟨negative, whole, part, none, hdigits, hne, hhead, hpart,
    fun _ h => absurd h (by simp), fun _ h => absurd h (by simp)⟩, rfl, by
      simp [Numeral.unsigned, pointed, marked, hpne]⟩

theorem unsigned_marked {whole part : Text} (hdigits : AllDigits whole) (hone : whole.length = 1)
    (hpart : AllDigits part) (negativeExponent : Bool) (n : Nat) :
    Unsigned (whole ++ (pointed part ++ marked (some (negativeExponent, decimal n)))) := fun negative =>
  ⟨⟨negative, whole, part, some (negativeExponent, decimal n), hdigits,
    List.ne_nil_of_length_pos (by omega), fun _ => hone, hpart,
    fun _ h => by
      rw [← Option.some.inj h]
      exact decimal_digits n,
    fun _ h => by
      rw [← Option.some.inj h]
      exact decimal_ne_nil n⟩, rfl, rfl⟩

/-- Digits that are not all zero make a numeral, wherever the point falls. -/
theorem layout_unsigned {digits : Nat} (h : digits ≠ 0) (exponent : Int) :
    Unsigned (ofString (layout digits exponent)) := by
  have hds := decimal_digits digits
  have hne := decimal_ne_nil digits
  have hhead := decimal_head h
  have hpos := List.length_pos_iff.mpr hne
  rw [ofString_layout]
  simp only
  split
  · -- The point falls behind the digits.
    refine unsigned_whole (allDigits_append hds (allDigits_zeros _))
      (List.append_ne_nil_of_left_ne_nil hne _) fun hzero => ?_
    rw [List.head?_append_of_ne_nil _ hne] at hzero
    exact absurd hzero hhead
  · split
    · -- The point falls among the digits.
      next hbehind hpoint =>
      have hk : 0 < (((decimal digits).length : Int) + exponent).toNat := by omega
      have hlt : (((decimal digits).length : Int) + exponent).toNat < (decimal digits).length := by omega
      refine unsigned_pointed (fun u hu => hds u (List.mem_of_mem_take hu)) ?_ (fun hzero => ?_)
        (fun u hu => hds u (List.mem_of_mem_drop hu)) ?_
      · exact List.ne_nil_of_length_pos (by rw [List.length_take]; omega)
      · rw [List.head?_take, if_neg (by omega)] at hzero
        exact absurd hzero hhead
      · exact List.ne_nil_of_length_pos (by rw [List.length_drop]; omega)
    · split
      · -- The digits stand behind the point, with zeros in front.
        show Unsigned ([0x30] ++ 0x2E :: _)
        exact unsigned_pointed (allDigits_zeros 1) (List.cons_ne_nil _ _) (fun _ => rfl)
          (allDigits_append (allDigits_zeros _) hds) (List.append_ne_nil_of_right_ne_nil _ hne)
      · exact unsigned_marked (fun u hu => hds u (List.mem_of_mem_take hu))
          (by rw [List.length_take]; omega) (fun u hu => hds u (List.mem_of_mem_drop hu)) _ _

/-! ### Digits of a value -/

theorem oddPart_ne_zero {m : Nat} (h : m ≠ 0) (fuel : Nat) (e : Int) : (oddPart fuel m e).1 ≠ 0 := by
  fun_induction oddPart fuel m e with
  | case1 => exact h
  | case2 fuel m e heven ih => exact ih (by omega)
  | case3 => exact h

theorem powTwo_pos (k : Nat) : 0 < powTwo k := Nat.two_pow_pos k

/-- A value that is not zero is not the number zero. -/
theorem ofDyadic_ne_zero {m : Nat} (h : m ≠ 0) (e : Int) : ofDyadic false m e ≠ int 0 := by
  have hodd := oddPart_ne_zero h (m.log2 + 1) e
  have hscaled : (oddPart (m.log2 + 1) m e).1 * powTwo (oddPart (m.log2 + 1) m e).2.toNat ≠ 0 :=
    Nat.mul_ne_zero hodd (Nat.ne_of_gt (powTwo_pos _))
  rw [ofDyadic, if_neg h]
  simp only
  split
  · intro hzero
    have hint : (((oddPart (m.log2 + 1) m e).1 * powTwo (oddPart (m.log2 + 1) m e).2.toNat : Nat) : Int) = 0 :=
      Number.int.inj hzero
    exact hscaled (Int.ofNat_eq_zero.mp hint)
  · exact fun hzero => nomatch hzero

/-- The digit zero reads back as zero only. -/
theorem ne_zero_of_readsBack {x : Number} (hx : x ≠ int 0) {digits : Nat} {exponent : Int}
    (h : readsBack x digits exponent = true) : digits ≠ 0 := by
  rintro rfl
  exact hx (eq_of_beq h).symm

theorem onGrid_ne_zero {x : Number} (hx : x ≠ int 0) {m : Nat} {e exponent : Int} {digits : Nat}
    (h : onGrid? x m e exponent = some digits) : digits ≠ 0 := by
  simp only [onGrid?] at h
  split at h
  · next hlower _ =>
    split at h
    · rw [← Option.some.inj h]
      exact Nat.succ_ne_zero _
    · rw [← Option.some.inj h]
      exact ne_zero_of_readsBack hx hlower
  · next hlower _ =>
    rw [← Option.some.inj h]
    exact ne_zero_of_readsBack hx hlower
  · rw [← Option.some.inj h]
    exact Nat.succ_ne_zero _
  · cases h

theorem firstGrid_ne_zero {x : Number} (hx : x ≠ int 0) {m : Nat} (hm : m ≠ 0) (e size : Int)
    (fuel count : Nat) : (firstGrid x m e size fuel count).1 ≠ 0 := by
  fun_induction firstGrid x m e size fuel count with
  | case1 =>
    have hfive : 0 < Nat.pow 5 (-e).toNat := Nat.pow_pos (show 0 < 5 by decide)
    exact Nat.mul_ne_zero (Nat.mul_ne_zero hm (Nat.ne_of_gt (powTwo_pos _))) (Nat.ne_of_gt hfive)
  | case2 fuel count exponent digits hgrid => exact onGrid_ne_zero hx hgrid
  | case3 fuel count exponent hgrid ih => exact ih

theorem trimZeros_ne_zero {digits : Nat} (h : digits ≠ 0) (fuel : Nat) (exponent : Int) :
    (trimZeros fuel digits exponent).1 ≠ 0 := by
  fun_induction trimZeros fuel digits exponent with
  | case1 => exact h
  | case2 fuel digits exponent htrim ih => exact ih (by omega)
  | case3 => exact h

/-- The digits of a value that is not zero are not zero. -/
theorem shortest_ne_zero {m : Nat} (h : m ≠ 0) (e : Int) : (shortest m e).1 ≠ 0 := by
  let grid := firstGrid (ofDyadic false m e) m e (decimalSize m e) 20 1
  have hgrid : grid.1 ≠ 0 := firstGrid_ne_zero (ofDyadic_ne_zero h e) h e _ _ _
  show (trimZeros 25 grid.1 grid.2).1 ≠ 0
  exact trimZeros_ne_zero hgrid _ _

/-- Zero, should it come with an exponent, has one place behind the point. -/
theorem shortest_zero (e : Int) : shortest 0 e = (0, -1) := by
  have hsize : decimalSize 0 e = 0 := by
    simp [decimalSize, Nat.toDigits_zero]
  have hgrid : onGrid? (int 0) 0 e (-1) = some 0 := by
    have hlower : readsBack (int 0) 0 (-1) = true := rfl
    have hupper : readsBack (int 0) (0 + 1) (-1) = false := by decide
    simp [onGrid?, hlower, hupper]
  have hfirst : firstGrid (int 0) 0 e 0 20 1 = (0, -1) := by
    rw [firstGrid]
    simp only [Int.zero_sub, Int.natCast_one, hgrid]
  have hzero : ofDyadic false 0 e = int 0 := rfl
  simp only [shortest, hzero, hsize, hfirst]
  rfl

/-! ### Texts of finite numbers -/

theorem Unsigned.signed {t : Text} (h : Unsigned t) (negative : Bool) :
    ∃ n : Numeral, n.text = if negative then 0x2D :: t else t := by
  obtain ⟨n, hnegative, hunsigned⟩ := h negative
  exact ⟨n, by rw [Numeral.text, hnegative, hunsigned]⟩

theorem decimal_unsigned (n : Nat) : Unsigned (decimal n) := by
  refine unsigned_whole (decimal_digits n) (decimal_ne_nil n) fun hzero => ?_
  by_cases h : n = 0
  · rw [h]
    rfl
  · exact absurd hzero (decimal_head h)

theorem shortest_unsigned (m : Nat) (e : Int) :
    Unsigned (ofString (layout (shortest m e).1 (shortest m e).2)) := by
  by_cases h : m = 0
  · rw [h, shortest_zero]
    show Unsigned ([0x30] ++ 0x2E :: [0x30])
    exact unsigned_pointed (allDigits_zeros 1) (List.cons_ne_nil _ _) (fun _ => rfl) (allDigits_zeros 1)
      (List.cons_ne_nil _ _)
  · exact layout_unsigned (shortest_ne_zero h e) _

/-- **A finite number is written as a numeral.** -/
theorem toText_numeral {x : Number} (h : x.toDyadic?.isSome) : ∃ n : Numeral, n.text = x.toText := by
  cases x with
  | int n =>
    cases n with
    | ofNat k =>
      obtain ⟨n, hn⟩ := (decimal_unsigned k).signed false
      exact ⟨n, hn.trans (ofString_toString k).symm⟩
    | negSucc k =>
      obtain ⟨n, hn⟩ := (decimal_unsigned (k + 1)).signed true
      refine ⟨n, hn.trans ?_⟩
      show 0x2D :: decimal (k + 1) = ofString ("-" ++ toString (k + 1))
      rw [ofString_append, ofString_toString]
      rfl
  | negativeZero => exact (decimal_unsigned 0).signed false
  | dyadic negative m e =>
    obtain ⟨n, hn⟩ := (shortest_unsigned m e).signed negative
    refine ⟨n, hn.trans ?_⟩
    show _ = ofString ((if negative then "-" else "") ++ layout (shortest m e).1 (shortest m e).2)
    rw [ofString_append]
    cases negative <;> rfl
  | infinite negative => cases h
  | notANumber => cases h

end Number

end EcmaModule
