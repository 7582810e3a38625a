import EcmaModule.Proofs.Json.Document
import EcmaModule.Proofs.Text.Utf8

/-! JSON texts as bytes.

A JSON text that is written has no lone surrogate: a literal escapes what stands alone, and
all else is ASCII, if the gap is (`paired_print`). The text of an object starts with a brace,
so its bytes do not start like a byte order mark, and the strict reader takes them back
(`decode_printObject`). -/
namespace EcmaModule.Json

open Text

/-! ### Literals and numbers -/

theorem paired_null : Paired "null" := paired_ascii (by decide)

theorem paired_bool (b : Bool) : Paired (if b then "true" else "false") := by
  cases b <;> exact paired_ascii (by decide)

theorem paired_digits {ds : Text} (h : AllDigits ds) : Paired ds := by
  refine paired_ascii (List.all_eq_true.mpr fun u hu => decide_eq_true ?_)
  have hdigit := h u hu
  simp only [Value.isDigit, Bool.and_eq_true, decide_eq_true_eq, UInt16.le_iff_toNat_le] at hdigit
  exact Nat.lt_of_le_of_lt hdigit.2 (by decide)

theorem paired_pointed {part : Text} (h : AllDigits part) : Paired (pointed part) := by
  unfold pointed
  split
  · exact paired_nil
  · exact (paired_digits h).cons (by decide)

theorem paired_marked {exponent : Option (Bool × Text)} (h : ∀ e ∈ exponent, AllDigits e.2) :
    Paired (marked exponent) := by
  cases exponent with
  | none => exact paired_nil
  | some e =>
    have hdigits := paired_digits (h e rfl)
    obtain ⟨negative, ds⟩ := e
    have hsign : (if negative then 0x2D else 0x2B : UInt16).toNat < 0x80 := by
      cases negative <;> decide
    exact (hdigits.cons hsign).cons (by decide)

theorem Numeral.paired (n : Numeral) : Paired n.text := by
  have hunsigned : Paired n.unsigned :=
    (paired_digits n.whole_digits).append
      ((paired_pointed n.part_digits).append (paired_marked n.exponent_digits))
  unfold text
  split
  · exact hunsigned.cons (by decide)
  · exact hunsigned

theorem paired_number (gap indent : Text) (x : Number) : Paired (printAt gap indent (.number x)) := by
  have hfinite (h : x.toDyadic?.isSome = true) : Paired x.toText := by
    obtain ⟨n, hn⟩ := Number.toText_numeral h
    exact hn ▸ n.paired
  cases x with
  | infinite negative => exact paired_null
  | notANumber => exact paired_null
  | int n => exact hfinite rfl
  | negativeZero => exact hfinite rfl
  | dyadic negative m e => exact hfinite rfl

/-! ### Brackets -/

theorem paired_join {separator : Text} (hseparator : Paired separator) {ts : List Text}
    (h : ∀ t ∈ ts, Paired t) : Paired (Text.join separator ts) := by
  rw [Text.join, List.intercalate]
  induction ts with
  | nil => exact paired_nil
  | cons t rest ih =>
    have ht : Paired t := h t (List.mem_cons_self ..)
    have hrest := ih fun s hs => h s (List.mem_cons_of_mem t hs)
    cases rest with
    | nil => exact ht.append paired_nil
    | cons s tail => exact ht.append (hseparator.append hrest)

theorem paired_lineBreak {gap indent : Text} (h : Paired indent) : Paired (lineBreak gap indent) := by
  unfold lineBreak
  split
  · exact paired_nil
  · exact h.cons (by decide)

/-- A bracket of texts without lone surrogates has none, if its own units have none. -/
theorem paired_bracket {opening closing : UInt16} (hopening : Paired [opening]) (hclosing : Paired [closing])
    {gap indent : Text} (hgap : Paired gap) (hindent : Paired indent) {texts : List Text}
    (h : ∀ t ∈ texts, Paired t) : Paired (bracket opening closing gap indent texts) := by
  unfold bracket
  split
  · exact hopening.append hclosing
  · have hinner : Paired (lineBreak gap (indent ++ gap)) := paired_lineBreak (hindent.append hgap)
    have hseparator : Paired (0x2C :: lineBreak gap (indent ++ gap)) := hinner.cons (by decide)
    have hbody := hinner.append (paired_join hseparator h)
    exact hopening.append ((hbody.append (paired_lineBreak hindent)).append hclosing)

/-! ### Values -/

mutual

theorem paired_printAt {gap : Text} (hgap : Paired gap) :
    ∀ (v : Value) {indent : Text}, Paired indent → Paired (printAt gap indent v)
  | .undefined, _, _ => paired_null
  | .null, _, _ => paired_null
  | .bool true, _, _ => paired_bool true
  | .bool false, _, _ => paired_bool false
  | .number x, indent, _ => paired_number gap indent x
  | .bigint _, _, _ => paired_null
  | .regexp _ _, _, _ => paired_null
  | .enclosing, _, _ => paired_null
  | .string t, _, _ => paired_quote t
  | .array items, _, hindent =>
    paired_bracket (paired_ascii (by decide)) (paired_ascii (by decide)) hgap hindent
      (paired_printItems hgap items (hindent.append hgap))
  | .object fields, _, hindent =>
    paired_bracket (paired_ascii (by decide)) (paired_ascii (by decide)) hgap hindent
      (paired_printFields hgap fields (hindent.append hgap))

theorem paired_printItems {gap : Text} (hgap : Paired gap) :
    ∀ (items : List Value) {indent : Text}, Paired indent → ∀ t ∈ printItems gap indent items, Paired t
  | [], _, _ => fun _ ht => absurd ht List.not_mem_nil
  | v :: rest, _, hindent => fun t ht => by
    rcases List.mem_cons.mp ht with rfl | ht
    · exact paired_printAt hgap v hindent
    · exact paired_printItems hgap rest hindent t ht

theorem paired_printFields {gap : Text} (hgap : Paired gap) :
    ∀ (fields : List (Text × Value)) {indent : Text}, Paired indent →
      ∀ t ∈ printFields gap indent fields, Paired t
  | [], _, _ => fun _ ht => absurd ht List.not_mem_nil
  | f :: rest, _, hindent => fun t ht => by
    have hcolon : Paired (if gap.isEmpty then [0x3A] else [0x3A, 0x20]) := by
      split <;> exact paired_ascii (by decide)
    rw [printFields] at ht
    split at ht
    · rcases List.mem_cons.mp ht with rfl | ht
      · exact ((paired_quote f.1).append hcolon).append (paired_printAt hgap f.2 hindent)
      · exact paired_printFields hgap rest hindent t ht
    · exact paired_printFields hgap rest hindent t ht

end

/-- **The text of a value has no lone surrogate**, whatever the value holds. -/
theorem paired_print {gap : Text} (hgap : Paired gap) (v : Value) : Paired (print gap v) :=
  paired_printAt hgap v paired_nil

/-- **The text of an object comes back from its bytes.** -/
theorem decode_printObject {gap : Text} (hgap : Paired gap) (fields : Value.Fields) :
    let t := print gap (.object fields)
    Utf8.decode? (Utf8.encode t) = some t := by
  intro t
  obtain ⟨rest, hbrace⟩ : ∃ rest, t = 0x7B :: rest := by
    show ∃ rest, bracket 0x7B 0x7D gap [] (printFields gap ([] ++ gap) fields) = 0x7B :: rest
    unfold bracket
    split <;> exact ⟨_, rfl⟩
  refine Utf8.decode_encode (paired_print hgap _) ?_
  rw [hbrace, Utf8.encode_head (by decide)]
  decide

end EcmaModule.Json
