import EcmaModule.Proofs.Text.CodePoint

/-! UTF-8, written and read back.

`WellFormed` is the syntax of UTF-8 [RFC 3629 §4]. What is written is always well formed
(`encode_wellFormed`), since a lone surrogate is replaced. A text without lone surrogates
comes back from its bytes, unless they start like a byte order mark, which the reader
drops (`decode_encode`). The lossy reader keeps the mark and loses nothing of such a text
(`decodeLossy_encode`). -/
namespace EcmaModule.Utf8

open Text

/-! ### The syntax -/

/-- A byte of a range. -/
def InRange (low high : Nat) (b : UInt8) : Prop := low ≤ b.toNat ∧ b.toNat ≤ high

/-- A byte that is not the first of its character. -/
def IsTail (b : UInt8) : Prop := InRange 0x80 0xBF b

/-- The bytes of one character. -/
inductive Character : Bytes → Prop where
  | one {a : UInt8} (ha : a.toNat ≤ 0x7F) : Character [a]
  | two {a b : UInt8} (ha : InRange 0xC2 0xDF a) (hb : IsTail b) : Character [a, b]
  /-- Neither a character of fewer bytes nor a surrogate. -/
  | three {a b c : UInt8} (ha : InRange 0xE0 0xEF a) (hb : IsTail b) (hc : IsTail c)
    (hlong : a.toNat = 0xE0 → 0xA0 ≤ b.toNat) (hsurrogate : a.toNat = 0xED → b.toNat ≤ 0x9F) :
    Character [a, b, c]
  /-- Neither a character of fewer bytes nor beyond the last one. -/
  | four {a b c d : UInt8} (ha : InRange 0xF0 0xF4 a) (hb : IsTail b) (hc : IsTail c) (hd : IsTail d)
    (hlong : a.toNat = 0xF0 → 0x90 ≤ b.toNat) (hlast : a.toNat = 0xF4 → b.toNat ≤ 0x8F) :
    Character [a, b, c, d]

/-- Characters, one after the other. -/
inductive WellFormed : Bytes → Prop where
  | nil : WellFormed []
  | cons {a rest : Bytes} (h : Character a) (hrest : WellFormed rest) : WellFormed (a ++ rest)

/-! ### One code point -/

theorem toNat_toUInt8 {n : Nat} (h : n < 0x100) : n.toUInt8.toNat = n := Nat.mod_eq_of_lt h

theorem inRange_toUInt8 {n low high : Nat} (hlow : low ≤ n) (hhigh : n ≤ high) (h : high < 0x100) :
    InRange low high n.toUInt8 := by
  unfold InRange
  rw [toNat_toUInt8 (by omega)]
  exact ⟨hlow, hhigh⟩

theorem encodePoint_character {c : Nat} (h : c.isValidChar) : Character (encodePoint c) := by
  have hlt : c < 0x110000 := by rcases h with h | h <;> omega
  have htail (n : Nat) : IsTail (0x80 + n % 0x40).toUInt8 :=
    inRange_toUInt8 (by omega) (by omega) (by omega)
  unfold encodePoint
  split
  · exact .one (by rw [toNat_toUInt8 (by omega)]; omega)
  · split
    · exact .two (inRange_toUInt8 (by omega) (by omega) (by omega)) (htail c)
    · split
      · refine .three (inRange_toUInt8 (by omega) (by omega) (by omega)) (htail _) (htail _) ?_ ?_
        · rw [toNat_toUInt8 (by omega), toNat_toUInt8 (by omega)]
          omega
        · rw [toNat_toUInt8 (by omega), toNat_toUInt8 (by omega)]
          rcases h with h | h <;> omega
      · refine .four (inRange_toUInt8 (by omega) (by omega) (by omega)) (htail _) (htail _) (htail _) ?_ ?_
        · rw [toNat_toUInt8 (by omega), toNat_toUInt8 (by omega)]
          omega
        · rw [toNat_toUInt8 (by omega), toNat_toUInt8 (by omega)]
          omega

theorem lead_two {b : Nat} (hlow : 0xC2 ≤ b) (hhigh : b ≤ 0xDF) :
    lead b = .started ⟨1, b - 0xC0, 0x80, 0xBF⟩ := by
  rw [lead, if_neg (by omega), if_pos ⟨hlow, hhigh⟩]

theorem lead_three {b : Nat} (hlow : 0xE0 ≤ b) (hhigh : b ≤ 0xEF) :
    lead b = .started
      ⟨2, b - 0xE0, if b = 0xE0 then 0xA0 else 0x80, if b = 0xED then 0x9F else 0xBF⟩ := by
  rw [lead, if_neg (by omega), if_neg (by omega), if_pos ⟨hlow, hhigh⟩]

theorem lead_four {b : Nat} (hlow : 0xF0 ≤ b) (hhigh : b ≤ 0xF4) :
    lead b = .started
      ⟨3, b - 0xF0, if b = 0xF0 then 0x90 else 0x80, if b = 0xF4 then 0x8F else 0xBF⟩ := by
  rw [lead, if_neg (by omega), if_neg (by omega), if_neg (by omega), if_pos ⟨hlow, hhigh⟩]

/-- A first byte that owes tail bytes. -/
theorem decodeAux_started {b : Nat} {p : Partial} (hb : b < 0x100) (h : lead b = .started p)
    (done : List Nat) (rest : Bytes) :
    decodeAux none done (b.toUInt8 :: rest) = decodeAux (some p) done rest := by
  simp only [decodeAux, toNat_toUInt8 hb, h]

section Tail
variable {owed bits low high b : Nat} (hb : b < 0x100) (hlow : low ≤ b) (hhigh : b ≤ high)
include hb hlow hhigh

/-- A tail byte that more will follow. -/
theorem decodeAux_tail (done : List Nat) (rest : Bytes) :
    decodeAux (some ⟨owed + 2, bits, low, high⟩) done (b.toUInt8 :: rest) =
      decodeAux (some ⟨owed + 1, bits * 0x40 + (b - 0x80), 0x80, 0xBF⟩) done rest := by
  have haccepts : Partial.accepts ⟨owed + 2, bits, low, high⟩ b = true := by
    simp [Partial.accepts, hlow, hhigh]
  have howed : ¬ owed + 2 ≤ 1 := by omega
  simp only [decodeAux, toNat_toUInt8 hb, haccepts, if_true, if_neg howed]
  rfl

/-- The tail byte that ends a character. -/
theorem decodeAux_last (done : List Nat) (rest : Bytes) :
    decodeAux (some ⟨1, bits, low, high⟩) done (b.toUInt8 :: rest) =
      decodeAux none ((bits * 0x40 + (b - 0x80)) :: done) rest := by
  have haccepts : Partial.accepts ⟨1, bits, low, high⟩ b = true := by
    simp [Partial.accepts, hlow, hhigh]
  simp only [decodeAux, toNat_toUInt8 hb, haccepts, if_true, Nat.le_refl]
  rfl

end Tail

/-- **The bytes of a code point are read as that code point.** -/
theorem decodeAux_encodePoint {c : Nat} (h : c.isValidChar) (done : List Nat) (rest : Bytes) :
    decodeAux none done (encodePoint c ++ rest) = decodeAux none (c :: done) rest := by
  have hlt : c < 0x110000 := by rcases h with h | h <;> omega
  have hsame {d : Nat} (hd : d = c) : decodeAux none (d :: done) rest = decodeAux none (c :: done) rest := by
    rw [hd]
  unfold encodePoint
  split
  · have hlead : lead c = .whole c := by rw [lead, if_pos (by omega)]
    simp only [List.cons_append, List.nil_append, decodeAux, toNat_toUInt8 (show c < 0x100 by omega), hlead]
  · split
    · simp only [List.cons_append, List.nil_append]
      rw [decodeAux_started (by omega) (lead_two (by omega) (by omega)),
        decodeAux_last (by omega) (by omega) (by omega)]
      exact hsame (by omega)
    · split
      · simp only [List.cons_append, List.nil_append]
        rw [decodeAux_started (by omega) (lead_three (by omega) (by omega)),
          decodeAux_tail (by omega) (by split <;> omega) (by rcases h with h | h <;> split <;> omega),
          decodeAux_last (by omega) (by omega) (by omega)]
        exact hsame (by omega)
      · simp only [List.cons_append, List.nil_append]
        rw [decodeAux_started (by omega) (lead_four (by omega) (by omega)),
          decodeAux_tail (by omega) (by split <;> omega) (by split <;> omega),
          decodeAux_tail (by omega) (by omega) (by omega), decodeAux_last (by omega) (by omega) (by omega)]
        exact hsame (by omega)

/-! ### Texts -/

theorem scalar_isValidChar {c : Nat} (h : c < 0x110000) : (scalar c).isValidChar := by
  unfold scalar
  split
  · exact .inr (by decide)
  · by_cases hlow : c < 0xD800
    · exact .inl hlow
    · exact .inr (by omega)

theorem scalar_of_isValidChar {c : Nat} (h : c.isValidChar) : scalar c = c := by
  unfold scalar
  rw [if_neg (by rcases h with h | h <;> omega)]

/-- **What is written is well formed.** -/
theorem encode_wellFormed (t : Text) : WellFormed (encode t) := by
  have hall : ∀ cs : List Nat, (∀ c ∈ cs, c < 0x110000) →
      WellFormed (cs.flatMap fun c => encodePoint (scalar c)) := by
    intro cs
    induction cs with
    | nil => intro _; exact .nil
    | cons c rest ih =>
      intro h
      have hc := encodePoint_character (scalar_isValidChar (h c (List.mem_cons_self ..)))
      exact .cons hc (ih fun d hd => h d (List.mem_cons_of_mem c hd))
  exact hall _ (codePoints_lt t)

theorem decodeAux_flatMap {cs : List Nat} (h : ∀ c ∈ cs, c.isValidChar) (done : List Nat) :
    decodeAux none done (cs.flatMap fun c => encodePoint (scalar c)) = some (cs.reverse ++ done) := by
  induction cs generalizing done with
  | nil => rfl
  | cons c rest ih =>
    have hc := h c (List.mem_cons_self ..)
    rw [List.flatMap_cons, scalar_of_isValidChar hc, decodeAux_encodePoint hc,
      ih fun d hd => h d (List.mem_cons_of_mem c hd)]
    simp

/-- An ASCII unit is written as one byte. -/
theorem encode_head {u : UInt16} (h : u.toNat < 0x80) (t : Text) :
    (encode (u :: t)).head? = some u.toNat.toUInt8 := by
  have hvalid : u.toNat.isValidChar := .inl (by omega)
  have hpoints : codePoints (u :: t) = u.toNat :: codePoints t := by
    rw [← codePoints_unitsOf_append hvalid, unitsOf_toNat]
    rfl
  rw [encode, hpoints, List.flatMap_cons, scalar_of_isValidChar hvalid, encodePoint, if_pos h]
  rfl

theorem dropMark_cons {b : UInt8} (h : b ≠ 0xEF) (rest : Bytes) : dropMark (b :: rest) = b :: rest := by
  unfold dropMark
  split
  · simp_all
  · rfl

theorem decodeAux_encode {t : Text} (h : Paired t) :
    decodeAux none [] (encode t) = some t.codePoints.reverse := by
  rw [encode, decodeAux_flatMap h, List.append_nil]

/-- Bytes that are those of a text, but for a mark, are read as that text. -/
theorem decode_unmarked {t : Text} (h : Paired t) {bytes : Bytes} (hbytes : dropMark bytes = encode t) :
    decode? bytes = some t := by
  rw [decode?, hbytes, decodeAux_encode h, Option.map_some, List.reverse_reverse, ofCodePoints_codePoints]

/-- **A text without lone surrogates comes back from its bytes**, provided they do not start
like a byte order mark. -/
theorem decode_encode {t : Text} (h : Paired t) (hmark : (encode t).head? ≠ some 0xEF) :
    decode? (encode t) = some t := by
  refine decode_unmarked h ?_
  cases hbytes : encode t with
  | nil => rfl
  | cons b rest =>
    rw [hbytes] at hmark
    exact dropMark_cons (fun hb => hmark (by rw [hb]; rfl)) rest

/-- The bytes that mark a text as UTF-8. -/
def byteOrderMark : Bytes := [0xEF, 0xBB, 0xBF]

/-- A mark in front of the bytes is dropped. -/
theorem decode_byteOrderMark {t : Text} (h : Paired t) : decode? (byteOrderMark ++ encode t) = some t :=
  decode_unmarked h rfl

/-- The lossy reader replaces nothing where the strict one refuses nothing. -/
theorem decodeLossyAux_eq {state : Option Partial} {done cs : List Nat} {bytes : Bytes}
    (h : decodeAux state done bytes = some cs) : decodeLossyAux state done bytes = cs := by
  induction bytes generalizing state done with
  | nil =>
    cases state with
    | none => exact Option.some.inj h
    | some p => cases h
  | cons byte rest ih =>
    cases state with
    | none =>
      simp only [decodeAux] at h
      simp only [decodeLossyAux]
      cases hlead : lead byte.toNat with
      | whole c =>
        rw [hlead] at h
        exact ih h
      | started p =>
        rw [hlead] at h
        exact ih h
      | malformed =>
        rw [hlead] at h
        cases h
    | some p =>
      simp only [decodeAux] at h
      simp only [decodeLossyAux]
      by_cases haccepts : p.accepts byte.toNat = true
      · rw [if_pos haccepts] at h ⊢
        by_cases hlast : p.owed ≤ 1
        · rw [if_pos hlast] at h ⊢
          exact ih h
        · rw [if_neg hlast] at h ⊢
          exact ih h
      · rw [if_neg haccepts] at h
        cases h

/-- **The lossy reader gives every text without lone surrogates back**, a byte order mark included. -/
theorem decodeLossy_encode {t : Text} (h : Paired t) : decodeLossy (encode t) = t := by
  rw [decodeLossy, decodeLossyAux_eq (decodeAux_encode h), List.reverse_reverse, ofCodePoints_codePoints]

end EcmaModule.Utf8
