import EcmaModule.Json.Printer
import EcmaModule.Json.Reader
import EcmaModule.Proofs.Text.CodePoint

/-! String literals, written and read back.

Each code point of a text becomes a piece of the literal that the reader turns into the
units of that code point (`stringBody_quotePoint`), a lone surrogate by its number. So the
whole literal is read as the text (`stringBody_quote`), and it holds no lone surrogate
itself (`paired_quote`). -/
namespace EcmaModule.Json

open Text

/-! ### One unit by its number -/

theorem hexValue_hexDigit : ∀ n < 16, hexValue? (hexDigit n) = some n := by decide

theorem hexDigit_lt : ∀ n < 16, (hexDigit n).toNat < 0x80 := by decide

theorem hexQuad_escape (u : UInt16) :
    hexQuad? (hexDigit (u.toNat / 0x1000)) (hexDigit (u.toNat / 0x100 % 0x10))
      (hexDigit (u.toNat / 0x10 % 0x10)) (hexDigit (u.toNat % 0x10)) = some u := by
  have hu : u.toNat < 0x10000 := u.toNat_lt
  have hsum : u.toNat / 0x1000 * 0x1000 + u.toNat / 0x100 % 0x10 * 0x100 +
      u.toNat / 0x10 % 0x10 * 0x10 + u.toNat % 0x10 = u.toNat := by omega
  have hback : u.toNat.toUInt16 = u := UInt16.ofNat_toNat
  simp only [hexQuad?, hexValue_hexDigit _ (show u.toNat / 0x1000 < 16 by omega),
    hexValue_hexDigit _ (Nat.mod_lt _ (by decide)), bind, pure, Option.bind, hsum, hback]

theorem stringBody_escapeUnit (done : Text) (u : UInt16) (rest : Text) :
    stringBody? done (escapeUnit u ++ rest) = stringBody? (u :: done) rest := by
  simp only [escapeUnit, List.cons_append, List.nil_append, stringBody?, hexQuad_escape]

/-! ### One code point -/

/-- A unit that stands for itself. -/
theorem stringBody_plain (done : Text) {u : UInt16} (hquote : u.toNat ≠ 0x22) (hslash : u.toNat ≠ 0x5C)
    (hcontrol : 0x20 ≤ u.toNat) (rest : Text) :
    stringBody? done (u :: rest) = stringBody? (u :: done) rest := by
  have hq : u ≠ 0x22 := fun h => hquote (by rw [h]; rfl)
  have hs : u ≠ 0x5C := fun h => hslash (by rw [h]; rfl)
  have hc : ¬ u < 0x20 := UInt16.not_lt.mpr (UInt16.le_iff_toNat_le.mpr hcontrol)
  rw [stringBody?]
  · simp [hs, hc]
  all_goals simp_all

theorem stringBody_unitsOf (done : Text) {c : Nat} (hquote : c ≠ 0x22) (hslash : c ≠ 0x5C)
    (hcontrol : 0x20 ≤ c) (hlt : c < 0x110000) (rest : Text) :
    stringBody? done (unitsOf c ++ rest) = stringBody? ((unitsOf c).reverse ++ done) rest := by
  unfold unitsOf
  split
  · next hsmall =>
    have hc := toNat_toUInt16 hsmall
    exact stringBody_plain done (by omega) (by omega) (by omega) rest
  · have hhigh := toNat_toUInt16 (n := 0xD800 + (c - 0x10000) / 0x400) (by omega)
    have hlow := toNat_toUInt16 (n := 0xDC00 + (c - 0x10000) % 0x400) (by omega)
    exact (stringBody_plain done (by omega) (by omega) (by omega) _).trans
      (stringBody_plain _ (by omega) (by omega) (by omega) rest)

theorem unitsOf_small {c : Nat} (h : c < 0x10000) : unitsOf c = [c.toUInt16] := if_pos h

/-- **A code point of a literal is read as its units.** -/
theorem stringBody_quotePoint (done : Text) {c : Nat} (hlt : c < 0x110000) (rest : Text) :
    stringBody? done (quotePoint c ++ rest) = stringBody? ((unitsOf c).reverse ++ done) rest := by
  have hescaped (h : c < 0x10000) : stringBody? done (escapeUnit c.toUInt16 ++ rest) =
      stringBody? ((unitsOf c).reverse ++ done) rest := by
    rw [stringBody_escapeUnit, unitsOf_small h]
    rfl
  by_cases hshort : c = 0x22 ∨ c = 0x5C ∨ c = 0x08 ∨ c = 0x0C ∨ c = 0x0A ∨ c = 0x0D ∨ c = 0x09
  · rcases hshort with rfl | rfl | rfl | rfl | rfl | rfl | rfl <;> rfl
  · simp only [not_or] at hshort
    obtain ⟨hquote, hslash, hb, hf, hn, hr, ht⟩ := hshort
    simp only [quotePoint, if_neg hquote, if_neg hslash, if_neg hb, if_neg hf, if_neg hn, if_neg hr, if_neg ht]
    split
    · exact hescaped (by omega)
    · split
      · exact hescaped (by omega)
      · exact stringBody_unitsOf done hquote hslash (by omega) hlt rest

theorem paired_escapeUnit (u : UInt16) : Paired (escapeUnit u) := by
  have hu : u.toNat < 0x10000 := u.toNat_lt
  refine paired_ascii (List.all_eq_true.mpr fun v hv => decide_eq_true ?_)
  simp only [escapeUnit, List.mem_cons, List.not_mem_nil, or_false] at hv
  rcases hv with rfl | rfl | rfl | rfl | rfl | rfl
  · decide
  · decide
  all_goals exact hexDigit_lt _ (by omega)

theorem paired_quotePoint {c : Nat} (hlt : c < 0x110000) : Paired (quotePoint c) := by
  by_cases hshort : c = 0x22 ∨ c = 0x5C ∨ c = 0x08 ∨ c = 0x0C ∨ c = 0x0A ∨ c = 0x0D ∨ c = 0x09
  · rcases hshort with rfl | rfl | rfl | rfl | rfl | rfl | rfl <;> exact paired_ascii (by decide)
  · simp only [not_or] at hshort
    obtain ⟨hquote, hslash, hb, hf, hn, hr, ht⟩ := hshort
    simp only [quotePoint, if_neg hquote, if_neg hslash, if_neg hb, if_neg hf, if_neg hn, if_neg hr, if_neg ht]
    split
    · exact paired_escapeUnit _
    · split
      · exact paired_escapeUnit _
      · exact paired_unitsOf (by unfold Nat.isValidChar; omega)

/-! ### Whole literals -/

theorem stringBody_quotePoints (done : Text) {cs : List Nat} (h : ∀ c ∈ cs, c < 0x110000) (rest : Text) :
    stringBody? done (cs.flatMap quotePoint ++ rest) =
      stringBody? ((ofCodePoints cs).reverse ++ done) rest := by
  induction cs generalizing done with
  | nil => rfl
  | cons c tail ih =>
    rw [List.flatMap_cons, List.append_assoc, stringBody_quotePoint done (h c (List.mem_cons_self ..)),
      ih _ fun d hd => h d (List.mem_cons_of_mem c hd), ofCodePoints_cons, List.reverse_append,
      List.append_assoc]

/-- **A literal is read as the text it quotes**, up to its closing quote. -/
theorem stringBody_quote (t rest : Text) :
    stringBody? [] (t.codePoints.flatMap quotePoint ++ 0x22 :: rest) = some (t, rest) := by
  rw [stringBody_quotePoints [] (codePoints_lt t), ofCodePoints_codePoints, List.append_nil]
  show some (t.reverse.reverse, rest) = _
  rw [List.reverse_reverse]

theorem value_quote (fuel : Nat) (t rest : Text) :
    value? (fuel + 1) (quote t ++ rest) = some (.string t, rest) := by
  have hquote : quote t ++ rest = 0x22 :: (t.codePoints.flatMap quotePoint ++ 0x22 :: rest) := by
    simp [quote]
  rw [hquote]
  show (stringBody? [] (t.codePoints.flatMap quotePoint ++ 0x22 :: rest)).map _ = _
  rw [stringBody_quote, Option.map_some]

/-- A literal is a JSON text. -/
theorem read_quote (t : Text) : read? (quote t) = some (.string t) := by
  have hvalue := value_quote (quote t).length t []
  rw [List.append_nil] at hvalue
  rw [read?, hvalue]
  rfl

/-- A literal has no lone surrogate, whatever it quotes. -/
theorem paired_quote (t : Text) : Paired (quote t) := by
  have hbody : Paired (t.codePoints.flatMap quotePoint) :=
    Paired.flatMap fun c hc => paired_quotePoint (codePoints_lt t c hc)
  have hmark : Paired [0x22] := paired_ascii (by decide)
  exact hmark.append (hbody.append hmark)

end EcmaModule.Json
