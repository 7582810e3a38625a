import EcmaModule.Text.Utf8

/-! Byte lengths of parts of a text.

A text cut in two has the byte length of its parts, unless the cut separates the two
halves of a surrogate pair: each half alone counts three bytes, together they count
four (`byteLength_append`). So the bytes up to an index grow by the bytes of the units
passed, and by two less where counting sets out from inside a pair
(`byteLength_slice`). -/
namespace EcmaModule

namespace Text

/-- The last unit is the first half of a pair. -/
def endsHigh (t : Text) : Bool := t.getLast?.any isHigh

/-- The first unit is the second half of a pair. -/
def startsLow (t : Text) : Bool := t.head?.any isLow

/-- The index stands between the two halves of a surrogate pair. -/
def insidePair (t : Text) (i : Nat) : Bool := endsHigh (t.take i) && startsLow (t.drop i)

/-- One when counting from one index to another sets out from inside a pair, else zero. -/
def splitCount (t : Text) (a b : Int) : Nat :=
  if insidePair t a.toNat && decide (a < b) then 1 else 0

theorem endsHigh_cons (u : UInt16) (t : Text) (ht : t ≠ []) : endsHigh (u :: t) = endsHigh t := by
  cases t with
  | nil => exact absurd rfl ht
  | cons v rest => simp [endsHigh]

theorem endsHigh_append (a b : Text) (hb : b ≠ []) : endsHigh (a ++ b) = endsHigh b := by
  simp [endsHigh, List.getLast?_append, List.getLast?_eq_some_getLast hb]

theorem not_low_of_high {u : UInt16} (h : isHigh u = true) : isLow u = false := by
  simp only [isHigh, isLow, Bool.and_eq_true, Bool.and_eq_false_iff, decide_eq_true_eq,
    decide_eq_false_iff_not, UInt16.le_iff_toNat_le] at h ⊢
  left
  have : (0xDBFF : UInt16).toNat < (0xDC00 : UInt16).toNat := by decide
  omega

/-! ### Cuts -/

theorem clampBound_natCast (n i : Nat) : clampBound n (i : Int) = min i n := by
  have : ¬ ((i : Int) < 0) := by omega
  simp [clampBound, this]

/-- A cut between two indices that are not negative. -/
theorem slice_natCast (t : Text) (a b : Nat) : t.slice a b = (t.take b).drop a := by
  simp only [slice, clampBound_natCast, List.drop_take]
  rcases Nat.le_total a t.length with ha | ha
  · rw [Nat.min_eq_left ha]
    rcases Nat.le_total b t.length with hb | hb
    · rw [Nat.min_eq_left hb]
    · rw [Nat.min_eq_right hb, List.take_of_length_le (by simp),
        List.take_of_length_le (by simp only [List.length_drop]; omega)]
  · rw [Nat.min_eq_right ha, List.drop_length, List.drop_eq_nil_of_le ha]
    simp

theorem slice_zero (t : Text) (b : Nat) : t.slice 0 b = t.take b := slice_natCast t 0 b

end Text

namespace Utf8

open Text

/-! ### Units in front of a text -/

theorem le_joinPair (u v : UInt16) : 0x10000 ≤ joinPair u v := by
  unfold joinPair
  omega

theorem pushUnit_join {u : UInt16} {c : Nat} (tail : List Nat) (hu : isHigh u = true)
    (hlo : 0xDC00 ≤ c) (hhi : c ≤ 0xDFFF) :
    pushUnit u (c :: tail) = joinPair u c.toUInt16 :: tail :=
  if_pos (by simp only [hu, hlo, hhi, decide_true, Bool.and_self])

theorem pushUnit_keep {u : UInt16} {c : Nat} (tail : List Nat)
    (h : ¬ (isHigh u = true ∧ 0xDC00 ≤ c ∧ c ≤ 0xDFFF)) :
    pushUnit u (c :: tail) = u.toNat :: c :: tail :=
  if_neg (by simpa only [Bool.and_eq_true, decide_eq_true_eq, and_assoc] using h)

/-- The first code point of a text is the second half of a pair only if its first unit is. -/
theorem codePoints_cons (u : UInt16) (t : Text) :
    ∃ c rest, codePoints (u :: t) = c :: rest ∧ (0xDC00 ≤ c ∧ c ≤ 0xDFFF ↔ isLow u = true) := by
  have hunit : 0xDC00 ≤ u.toNat ∧ u.toNat ≤ 0xDFFF ↔ isLow u = true := by
    simp [isLow, UInt16.le_iff_toNat_le]
  show ∃ c rest, pushUnit u (codePoints t) = c :: rest ∧ _
  cases hcs : codePoints t with
  | nil => exact ⟨u.toNat, [], rfl, hunit⟩
  | cons c tail =>
    by_cases hjoin : isHigh u = true ∧ 0xDC00 ≤ c ∧ c ≤ 0xDFFF
    · have hlow : isLow u = false := not_low_of_high hjoin.1
      have hlarge := le_joinPair u c.toUInt16
      refine ⟨joinPair u c.toUInt16, tail, pushUnit_join tail hjoin.1 hjoin.2.1 hjoin.2.2, ?_⟩
      rw [hlow]
      constructor
      · omega
      · intro h
        exact absurd h (by decide)
    · exact ⟨u.toNat, c :: tail, pushUnit_keep tail hjoin, hunit⟩

theorem width_surrogate {c : Nat} (hlo : 0xD800 ≤ c) (hhi : c ≤ 0xDFFF) : width c = 3 := by
  have h1 : ¬ c < 0x80 := by omega
  have h2 : ¬ c < 0x800 := by omega
  have h3 : c < 0x10000 := by omega
  simp [width, h1, h2, h3]

theorem width_pair (u v : UInt16) : width (joinPair u v) = 4 := by
  have hp := le_joinPair u v
  have h1 : ¬ joinPair u v < 0x80 := by omega
  have h2 : ¬ joinPair u v < 0x800 := by omega
  have h3 : ¬ joinPair u v < 0x10000 := by omega
  simp [width, h1, h2, h3]

/-- A unit adds its own bytes, less two when it completes a pair. -/
theorem byteLength_cons (u : UInt16) (t : Text) :
    byteLength (u :: t) + (if isHigh u && startsLow t then 2 else 0) =
      width u.toNat + byteLength t := by
  show (pushUnit u (codePoints t)).foldr (fun c n => width c + n) 0 + _ = _
  cases t with
  | nil => simp [codePoints, pushUnit, startsLow, byteLength]
  | cons v rest =>
    obtain ⟨c, tail, hcs, hrange⟩ := codePoints_cons v rest
    have hlen : byteLength (v :: rest) = width c + tail.foldr (fun c n => width c + n) 0 := by
      simp only [byteLength, hcs, List.foldr_cons]
    have hstart : startsLow (v :: rest) = isLow v := rfl
    rw [hcs, hlen, hstart]
    by_cases hpair : isHigh u = true ∧ isLow v = true
    · obtain ⟨hu, hv⟩ := hpair
      have hc := hrange.mpr hv
      have hhigh : 0xD800 ≤ u.toNat ∧ u.toNat ≤ 0xDBFF := by
        simpa [isHigh, UInt16.le_iff_toNat_le] using hu
      have hwu := width_surrogate hhigh.1 (by omega)
      have hwc := width_surrogate (c := c) (by omega) hc.2
      rw [pushUnit_join tail hu hc.1 hc.2, List.foldr_cons, width_pair, hwu, hwc, hu, hv]
      simp only [Bool.and_self, if_true]
      omega
    · have hno : (isHigh u && isLow v) = false := by
        simpa [Bool.and_eq_false_iff] using hpair
      have hjoin : ¬ (isHigh u = true ∧ 0xDC00 ≤ c ∧ c ≤ 0xDFFF) :=
        fun h => hpair ⟨h.1, hrange.mp h.2⟩
      rw [pushUnit_keep tail hjoin, List.foldr_cons, List.foldr_cons, hno]
      simp only [Bool.false_eq_true, if_false, Nat.add_zero]

/-! ### Parts -/

/-- **Lengths add up, but not across a pair.** A cut between two halves counts each of
them as three bytes. -/
theorem byteLength_append (a b : Text) :
    byteLength (a ++ b) + (if endsHigh a && startsLow b then 2 else 0) =
      byteLength a + byteLength b := by
  induction a with
  | nil => simp [endsHigh, byteLength, codePoints]
  | cons u rest ih =>
    have hcons := byteLength_cons u rest
    have happ := byteLength_cons u (rest ++ b)
    rw [List.cons_append]
    cases rest with
    | nil =>
      have hend : endsHigh [u] = isHigh u := rfl
      have hempty : startsLow ([] : Text) = false := rfl
      rw [hend]
      rw [hempty, Bool.and_false] at hcons
      simp only [List.nil_append, Bool.false_eq_true, if_false] at hcons happ ⊢
      have hnil : byteLength [] = 0 := rfl
      omega
    | cons v tail =>
      have hstart : startsLow (v :: tail ++ b) = startsLow (v :: tail) := rfl
      rw [endsHigh_cons u (v :: tail) (List.cons_ne_nil v tail)]
      rw [hstart] at happ
      omega

theorem byteLength_append_of_boundary {a b : Text} (h : endsHigh a = false) :
    byteLength (a ++ b) = byteLength a + byteLength b := by
  have := byteLength_append a b
  simpa only [h, Bool.false_and, Bool.false_eq_true, if_false, Nat.add_zero] using this

/-- **The bytes up to an index**, counted on from an earlier index. -/
theorem byteLength_slice (t : Text) {a b : Int} (ha : 0 ≤ a) (hab : a ≤ b) :
    byteLength (t.slice 0 b) + 2 * t.splitCount a b =
      byteLength (t.slice 0 a) + byteLength (t.slice a b) := by
  obtain ⟨m, rfl⟩ := Int.eq_ofNat_of_zero_le ha
  obtain ⟨n, rfl⟩ := Int.eq_ofNat_of_zero_le (Int.le_trans ha hab)
  have hmn : m ≤ n := Int.ofNat_le.mp hab
  rw [slice_zero, slice_zero, slice_natCast]
  have hsplit : t.take n = t.take m ++ (t.take n).drop m := by
    have := List.take_append_drop m (t.take n)
    rwa [List.take_take, Nat.min_eq_left hmn, eq_comm] at this
  have hstart : startsLow ((t.take n).drop m) =
      (startsLow (t.drop m) && decide ((m : Int) < n)) := by
    rw [List.drop_take]
    rcases Nat.eq_or_lt_of_le hmn with rfl | hlt
    · simp [startsLow]
    · have hpos : n - m ≠ 0 := by omega
      simp [startsLow, List.head?_take, hpos, hlt]
  have := byteLength_append (t.take m) ((t.take n).drop m)
  rw [← hsplit, hstart, ← Bool.and_assoc] at this
  rw [← this, splitCount, insidePair, Int.toNat_natCast]
  split <;> rfl

/-- From outside a pair on, more units are no fewer bytes. -/
theorem byteLength_slice_mono {t : Text} {a b : Int} (houtside : t.insidePair a.toNat = false)
    (ha : 0 ≤ a) (hab : a ≤ b) : byteLength (t.slice 0 a) ≤ byteLength (t.slice 0 b) := by
  have hslice := byteLength_slice t ha hab
  have hnone : t.splitCount a b = 0 := by simp [splitCount, houtside]
  omega

theorem width_pos (c : Nat) : 0 < width c := by
  unfold width
  split
  · decide
  · split
    · decide
    · split <;> decide

theorem byteLength_pos {t : Text} (h : t ≠ []) : 0 < byteLength t := by
  obtain ⟨u, rest, rfl⟩ := List.exists_cons_of_ne_nil h
  obtain ⟨c, tail, hpoints, -⟩ := codePoints_cons u rest
  have hwidth := width_pos c
  rw [byteLength, hpoints, List.foldr_cons]
  omega

/-- From outside a pair on, more units of the text are more bytes. -/
theorem byteLength_slice_lt {t : Text} {a b : Int} (houtside : t.insidePair a.toNat = false)
    (ha : 0 ≤ a) (hab : a < b) (hb : b ≤ t.length) :
    byteLength (t.slice 0 a) < byteLength (t.slice 0 b) := by
  have hslice := byteLength_slice t ha (Int.le_of_lt hab)
  have hnone : t.splitCount a b = 0 := by simp [splitCount, houtside]
  have hbetween : t.slice a b ≠ [] := by
    obtain ⟨m, rfl⟩ := Int.eq_ofNat_of_zero_le ha
    obtain ⟨n, rfl⟩ := Int.eq_ofNat_of_zero_le (show 0 ≤ b by omega)
    rw [slice_natCast, ← List.length_pos_iff, List.length_drop, List.length_take]
    omega
  have := byteLength_pos hbetween
  omega

end Utf8

end EcmaModule
