import EcmaModule.Proofs.Text.ByteLength

/-! Texts and their code points.

A text is made up again from its code points (`ofCodePoints_codePoints`). The other way
round, code points without a surrogate come back from the text they make
(`codePoints_ofCodePoints`), also with more text behind it. A text whose surrogates all
stand in pairs is such a text, so its code points end where it ends
(`Paired.codePoints_append`). -/
namespace EcmaModule.Text

/-! ### Units of a code point -/

theorem isHigh_iff {u : UInt16} : isHigh u = true ↔ 0xD800 ≤ u.toNat ∧ u.toNat ≤ 0xDBFF := by
  simp [isHigh, UInt16.le_iff_toNat_le]

theorem isLow_iff {u : UInt16} : isLow u = true ↔ 0xDC00 ≤ u.toNat ∧ u.toNat ≤ 0xDFFF := by
  simp [isLow, UInt16.le_iff_toNat_le]

theorem toNat_toUInt16 {n : Nat} (h : n < 0x10000) : n.toUInt16.toNat = n :=
  Nat.mod_eq_of_lt h

theorem isLow_toUInt16 {c : Nat} (hlo : 0xDC00 ≤ c) (hhi : c ≤ 0xDFFF) : isLow c.toUInt16 = true := by
  rw [isLow_iff, toNat_toUInt16 (by omega)]
  exact ⟨hlo, hhi⟩

theorem unitsOf_toNat (u : UInt16) : unitsOf u.toNat = [u] := by
  have hlt : u.toNat < 0x10000 := u.toNat_lt
  have hback : u.toNat.toUInt16 = u := UInt16.ofNat_toNat
  rw [unitsOf, if_pos hlt, hback]

theorem unitsOf_joinPair {u v : UInt16} (hu : isHigh u = true) (hv : isLow v = true) :
    unitsOf (joinPair u v) = [u, v] := by
  rw [isHigh_iff] at hu
  rw [isLow_iff] at hv
  have hlarge : ¬ joinPair u v < 0x10000 := Nat.not_lt.mpr (Utf8.le_joinPair u v)
  have hhigh : 0xD800 + (joinPair u v - 0x10000) / 0x400 = u.toNat := by
    unfold joinPair
    omega
  have hlow : 0xDC00 + (joinPair u v - 0x10000) % 0x400 = v.toNat := by
    unfold joinPair
    omega
  have hu' : u.toNat.toUInt16 = u := UInt16.ofNat_toNat
  have hv' : v.toNat.toUInt16 = v := UInt16.ofNat_toNat
  rw [unitsOf, if_neg hlarge, hhigh, hlow, hu', hv']

theorem joinPair_lt {u v : UInt16} (hu : isHigh u = true) (hv : isLow v = true) :
    joinPair u v < 0x110000 := by
  rw [isHigh_iff] at hu
  rw [isLow_iff] at hv
  unfold joinPair
  omega

/-! ### From a text and back -/

theorem ofCodePoints_cons (c : Nat) (cs : List Nat) :
    ofCodePoints (c :: cs) = unitsOf c ++ ofCodePoints cs := List.flatMap_cons ..

/-- One unit in front of code points is one unit in front of their text. -/
theorem ofCodePoints_pushUnit (u : UInt16) (cs : List Nat) :
    ofCodePoints (pushUnit u cs) = u :: ofCodePoints cs := by
  cases cs with
  | nil => rw [pushUnit, ofCodePoints_cons, unitsOf_toNat]; rfl
  | cons c tail =>
    by_cases hjoin : isHigh u = true ∧ 0xDC00 ≤ c ∧ c ≤ 0xDFFF
    · obtain ⟨hu, hlo, hhi⟩ := hjoin
      have hlow := isLow_toUInt16 hlo hhi
      rw [Utf8.pushUnit_join tail hu hlo hhi, ofCodePoints_cons, unitsOf_joinPair hu hlow,
        ofCodePoints_cons, unitsOf, if_pos (by omega)]
      rfl
    · rw [Utf8.pushUnit_keep tail hjoin, ofCodePoints_cons, unitsOf_toNat]
      rfl

/-- **A text is made up of its code points.** -/
theorem ofCodePoints_codePoints (t : Text) : ofCodePoints t.codePoints = t := by
  induction t with
  | nil => rfl
  | cons u rest ih =>
    show ofCodePoints (pushUnit u (codePoints rest)) = _
    rw [ofCodePoints_pushUnit, ih]

theorem pushUnit_lt (u : UInt16) {cs : List Nat} (h : ∀ c ∈ cs, c < 0x110000) :
    ∀ c ∈ pushUnit u cs, c < 0x110000 := by
  have hu : u.toNat < 0x10000 := u.toNat_lt
  intro x hx
  cases cs with
  | nil =>
    rw [List.mem_singleton.mp hx]
    omega
  | cons c tail =>
    by_cases hjoin : isHigh u = true ∧ 0xDC00 ≤ c ∧ c ≤ 0xDFFF
    · rw [Utf8.pushUnit_join tail hjoin.1 hjoin.2.1 hjoin.2.2] at hx
      rcases List.mem_cons.mp hx with heq | hx
      · rw [heq]
        exact joinPair_lt hjoin.1 (isLow_toUInt16 hjoin.2.1 hjoin.2.2)
      · exact h x (List.mem_cons_of_mem c hx)
    · rw [Utf8.pushUnit_keep tail hjoin] at hx
      rcases List.mem_cons.mp hx with rfl | hx
      · omega
      · exact h x hx

theorem codePoints_lt (t : Text) : ∀ c ∈ t.codePoints, c < 0x110000 := by
  induction t with
  | nil => intro c hc; cases hc
  | cons u rest ih => exact pushUnit_lt u ih

/-! ### Code points without a surrogate -/

/-- A unit that is no surrogate is a code point, whatever follows. -/
theorem pushUnit_of_not_high {u : UInt16} (h : isHigh u = false) (cs : List Nat) :
    pushUnit u cs = u.toNat :: cs := by
  cases cs with
  | nil => rfl
  | cons c tail => exact Utf8.pushUnit_keep tail fun hjoin => by simp [h] at hjoin

theorem codePoints_unitsOf_append {c : Nat} (h : c.isValidChar) (t : Text) :
    codePoints (unitsOf c ++ t) = c :: codePoints t := by
  by_cases hsmall : c < 0x10000
  · have hc := toNat_toUInt16 hsmall
    have hhigh : isHigh c.toUInt16 = false := by
      rw [Bool.eq_false_iff, ne_eq, isHigh_iff, hc]
      rcases h with h | h <;> omega
    rw [unitsOf, if_pos hsmall]
    show pushUnit c.toUInt16 (codePoints t) = _
    rw [pushUnit_of_not_high hhigh, hc]
  · have hlt : c < 0x110000 := by rcases h with h | h <;> omega
    obtain ⟨high, hhigh⟩ : ∃ n, n = 0xD800 + (c - 0x10000) / 0x400 := ⟨_, rfl⟩
    obtain ⟨low, hlow⟩ : ∃ n, n = 0xDC00 + (c - 0x10000) % 0x400 := ⟨_, rfl⟩
    have hhighUnit := toNat_toUInt16 (n := high) (by omega)
    have hlowUnit := toNat_toUInt16 (n := low) (by omega)
    have hisHigh : isHigh high.toUInt16 = true := isHigh_iff.mpr (by omega)
    have hnot : isHigh low.toUInt16 = false := by
      rw [Bool.eq_false_iff, ne_eq, isHigh_iff]
      omega
    have hjoined : joinPair high.toUInt16 low.toUInt16 = c := by
      unfold joinPair
      rw [hhighUnit, hlowUnit]
      omega
    rw [unitsOf, if_neg hsmall, ← hhigh, ← hlow]
    show pushUnit _ (pushUnit _ (codePoints t)) = _
    rw [pushUnit_of_not_high hnot, hlowUnit]
    have hjoin := Utf8.pushUnit_join (codePoints t) hisHigh (c := low) (by omega) (by omega)
    rwa [hjoined] at hjoin

/-- **Code points without a surrogate come back from their text**, whatever follows it. -/
theorem codePoints_ofCodePoints_append {cs : List Nat} (h : ∀ c ∈ cs, c.isValidChar) (t : Text) :
    codePoints (ofCodePoints cs ++ t) = cs ++ codePoints t := by
  induction cs with
  | nil => rfl
  | cons c rest ih =>
    rw [ofCodePoints_cons, List.append_assoc, codePoints_unitsOf_append (h c (List.mem_cons_self ..)),
      ih fun d hd => h d (List.mem_cons_of_mem c hd)]
    rfl

/-- Every surrogate of the text stands in a pair. -/
def Paired (t : Text) : Prop := ∀ c ∈ t.codePoints, c.isValidChar

theorem Paired.codePoints_append {a : Text} (h : Paired a) (b : Text) :
    codePoints (a ++ b) = codePoints a ++ codePoints b := by
  have := codePoints_ofCodePoints_append h b
  rwa [ofCodePoints_codePoints] at this

theorem paired_nil : Paired [] := fun _ h => absurd h List.not_mem_nil

theorem Paired.append {a b : Text} (ha : Paired a) (hb : Paired b) : Paired (a ++ b) := by
  intro c hc
  rw [ha.codePoints_append] at hc
  rcases List.mem_append.mp hc with hc | hc
  · exact ha c hc
  · exact hb c hc

theorem Paired.flatMap {α : Type} {f : α → Text} {xs : List α} (h : ∀ x ∈ xs, Paired (f x)) :
    Paired (xs.flatMap f) := by
  induction xs with
  | nil => exact paired_nil
  | cons x rest ih =>
    rw [List.flatMap_cons]
    exact (h x (List.mem_cons_self ..)).append (ih fun y hy => h y (List.mem_cons_of_mem x hy))

theorem paired_unitsOf {c : Nat} (h : c.isValidChar) : Paired (unitsOf c) := by
  have hcs := codePoints_unitsOf_append h []
  rw [List.append_nil] at hcs
  intro d hd
  rw [hcs] at hd
  rwa [List.mem_singleton.mp hd]

/-- An ASCII unit pairs with nothing. -/
theorem Paired.cons {u : UInt16} (hu : u.toNat < 0x80) {t : Text} (h : Paired t) : Paired (u :: t) := by
  have hunit : Paired [u] := by
    rw [← unitsOf_toNat]
    exact paired_unitsOf (.inl (by omega))
  exact hunit.append h

theorem paired_ascii {t : Text} (h : (t.all fun u => u.toNat < 0x80) = true) : Paired t := by
  simp only [List.all_eq_true, decide_eq_true_eq] at h
  induction t with
  | nil => exact paired_nil
  | cons u rest ih =>
    exact (ih fun v hv => h v (List.mem_cons_of_mem u hv)).cons (h u (List.mem_cons_self ..))

end EcmaModule.Text
