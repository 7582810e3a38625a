import EcmaModule.Proofs.Json.Quote
import EcmaModule.Proofs.Number.Text
import Mathlib.Data.List.Forall2

/-! JSON texts, written and read back.

Whatever a value holds, its text is one that the reader accepts, compact or indented by any
blanks (`read_print`). It is read as what JSON can carry of the value (`carried`): a number
that its digits stand for, null for a literal that has no text of its own, and no field
for an undefined one. -/
namespace EcmaModule.Json

/-! ### Blanks -/

def Blank (b : Text) : Prop := ∀ u ∈ b, isBlank u = true

theorem blank_nil : Blank [] := fun _ hu => absurd hu List.not_mem_nil

theorem skipBlank_append {b : Text} (hb : Blank b) (t : Text) : skipBlank (b ++ t) = skipBlank t :=
  List.dropWhile_append_of_pos hb

theorem skipBlank_cons {u : UInt16} (hu : isBlank u = false) (t : Text) : skipBlank (u :: t) = u :: t :=
  List.dropWhile_cons_of_neg (by simp [hu])

theorem value_blank {b : Text} (hb : Blank b) (fuel : Nat) (t : Text) : value? fuel (b ++ t) = value? fuel t := by
  cases fuel with
  | zero => rfl
  | succ fuel => simp only [value?, skipBlank_append hb]

theorem field_blank {b : Text} (hb : Blank b) (value : Text → Option (Value × Text)) (t : Text) :
    field? value (b ++ t) = field? value t := by
  simp only [field?, skipBlank_append hb]

theorem lineBreak_blank {gap indent : Text} (hindent : Blank indent) : Blank (lineBreak gap indent) := by
  unfold lineBreak
  split
  · exact blank_nil
  · intro u hu
    rcases List.mem_cons.mp hu with rfl | hu
    · rfl
    · exact hindent u hu

theorem delimited_nil : Delimited [] where
  digit := fun u hu => absurd hu (by simp)
  point := by simp
  mark := by simp

/-- A comma or a closing bracket, or a blank, ends a number. -/
theorem delimited_cons {u : UInt16} (hu : isBlank u = true ∨ u = 0x2C ∨ u = 0x5D ∨ u = 0x7D) (t : Text) :
    Delimited (u :: t) := by
  have hcases : u = 0x20 ∨ u = 0x09 ∨ u = 0x0A ∨ u = 0x0D ∨ u = 0x2C ∨ u = 0x5D ∨ u = 0x7D := by
    simpa [isBlank, or_assoc] using hu
  have hends : Value.isDigit u = false ∧ u ≠ 0x2E ∧ u ≠ 0x65 ∧ u ≠ 0x45 := by
    rcases hcases with rfl | rfl | rfl | rfl | rfl | rfl | rfl <;> decide
  obtain ⟨hdigit, hpoint, hlower, hupper⟩ := hends
  have hhead (w : UInt16) (h : u ≠ w) : (u :: t).head? ≠ some w := fun heq => h (Option.some.inj heq)
  refine ⟨fun v hv => ?_, hhead _ hpoint, hhead _ hlower, hhead _ hupper⟩
  rw [← Option.some.inj hv]
  exact hdigit

theorem delimited_blank {b : Text} (hb : Blank b) {t : Text} (ht : Delimited t) : Delimited (b ++ t) := by
  cases b with
  | nil => exact ht
  | cons u tail => exact delimited_cons (.inl (hb u List.mem_cons_self)) _

/-! ### Lists -/

/-- Items read one by one up to a closing bracket, latest first in `done`. -/
def listed? {α : Type} (read : Text → Option (α × Text)) (close : UInt16) :
    Nat → List α → Text → Option (List α × Text)
  | 0, _, _ => none
  | fuel + 1, done, t =>
    match read t with
    | none => none
    | some (x, rest) =>
      match skipBlank rest with
      | [] => none
      | u :: rest =>
        if u = 0x2C then listed? read close fuel (x :: done) rest
        else if u = close then some ((x :: done).reverse, rest)
        else none

theorem items_eq (value : Text → Option (Value × Text)) (fuel : Nat) (done : List Value) (t : Text) :
    items? value fuel done t = listed? value 0x5D fuel done t := by
  induction fuel generalizing done t with
  | zero => rfl
  | succ fuel ih =>
    rw [items?, listed?]
    cases value t with
    | none => rfl
    | some answer =>
      obtain ⟨v, rest⟩ := answer
      simp only
      split
      · next h => simp [h, ih]
      · next h => simp [h]
      · next hcomma hclose =>
        cases hskip : skipBlank rest with
        | nil => rfl
        | cons u tail =>
          have hu : u ≠ 0x2C := fun h => hcomma tail (by rw [hskip, h])
          have hc : u ≠ 0x5D := fun h => hclose tail (by rw [hskip, h])
          simp [hu, hc]

theorem fields_eq (value : Text → Option (Value × Text)) (fuel : Nat) (done : Value.Fields) (t : Text) :
    fields? value fuel done t = listed? (field? value) 0x7D fuel done t := by
  induction fuel generalizing done t with
  | zero => rfl
  | succ fuel ih =>
    rw [fields?, listed?]
    cases field? value t with
    | none => rfl
    | some answer =>
      obtain ⟨f, rest⟩ := answer
      simp only
      split
      · next h => simp [h, ih]
      · next h => simp [h]
      · next hcomma hclose =>
        cases hskip : skipBlank rest with
        | nil => rfl
        | cons u tail =>
          have hu : u ≠ 0x2C := fun h => hcomma tail (by rw [hskip, h])
          have hc : u ≠ 0x7D := fun h => hclose tail (by rw [hskip, h])
          simp [hu, hc]

theorem listed_blank {α : Type} {read : Text → Option (α × Text)} {b : Text}
    (hread : ∀ t, read (b ++ t) = read t) (close : UInt16) (fuel : Nat) (done : List α) (t : Text) :
    listed? read close fuel done (b ++ t) = listed? read close fuel done t := by
  cases fuel with
  | zero => rfl
  | succ fuel => rw [listed?, listed?, hread]

/-- **Items are read back from the text that joins them.** -/
theorem listed_join {α : Type} {read : Text → Option (α × Text)} {close : UInt16} {sep tail : Text}
    (hsep : ∀ t, read (sep ++ t) = read t) (htail : Blank tail)
    (hclose : close = 0x5D ∨ close = 0x7D) (rest : Text) {texts : List Text} {xs : List α}
    (h : List.Forall₂ (fun s x => ∀ rest, Delimited rest → read (s ++ rest) = some (x, rest)) texts xs)
    (hne : texts ≠ []) (fuel : Nat) (hfuel : texts.length ≤ fuel) (done : List α) :
    listed? read close fuel done (Text.join (0x2C :: sep) texts ++ (tail ++ close :: rest)) =
      some (done.reverse ++ xs, rest) := by
  induction h generalizing fuel done with
  | nil => exact absurd rfl hne
  | @cons s x texts xs hs hrest ih =>
    obtain ⟨fuel, rfl⟩ := Nat.exists_eq_succ_of_ne_zero
      (Nat.ne_of_gt (Nat.lt_of_lt_of_le (Nat.zero_lt_succ _) hfuel))
    have hcomma : (0x2C : UInt16) ≠ close := by rcases hclose with rfl | rfl <;> decide
    cases hrest with
    | nil =>
      -- The last item: behind it stands the closing bracket.
      have hend : Delimited (tail ++ close :: rest) :=
        delimited_blank htail (delimited_cons (.inr (.inr hclose)) rest)
      have hskip : skipBlank (tail ++ close :: rest) = close :: rest := by
        rw [skipBlank_append htail]
        exact skipBlank_cons (by rcases hclose with rfl | rfl <;> decide) rest
      rw [Text.join, List.intercalate_singleton, listed?, hs _ hend]
      simp only [hskip, if_neg hcomma.symm, if_true, List.reverse_cons]
    | @cons s₂ x₂ texts xs hs₂ hrest =>
      have hskip (t : Text) : skipBlank (0x2C :: t) = 0x2C :: t := skipBlank_cons (by decide) t
      rw [Text.join, List.intercalate_cons_cons, List.append_assoc, List.append_assoc, listed?,
        List.cons_append, hs _ (delimited_cons (.inr (.inl rfl)) _)]
      simp only [hskip, if_true]
      rw [listed_blank hsep]
      have hnext := ih (List.cons_ne_nil _ _) fuel (Nat.le_of_succ_le_succ hfuel) (x :: done)
      rw [List.reverse_cons, List.append_assoc] at hnext
      exact hnext

/-! ### Lengths -/

theorem length_le_join {sep s : Text} {texts : List Text} (h : s ∈ texts) :
    s.length ≤ (Text.join sep texts).length := by
  induction texts with
  | nil => exact absurd h List.not_mem_nil
  | cons t rest ih =>
    cases rest with
    | nil =>
      have hone : Text.join sep [t] = t := List.intercalate_singleton
      rw [List.mem_singleton.mp h]
      exact Nat.le_of_eq (congrArg List.length hone.symm)
    | cons u more =>
      rw [Text.join, List.intercalate_cons_cons, List.length_append, List.length_append]
      rcases List.mem_cons.mp h with rfl | h
      · omega
      · have hrest : s.length ≤ (Text.join sep (u :: more)).length := ih h
        unfold Text.join at hrest
        omega

/-- A separator stands between any two items. -/
theorem count_le_join (u : UInt16) (sep : Text) (texts : List Text) :
    texts.length ≤ (Text.join (u :: sep) texts).length + 1 := by
  induction texts with
  | nil => exact Nat.zero_le _
  | cons t rest ih =>
    cases rest with
    | nil => exact Nat.le_add_left 1 _
    | cons v more =>
      rw [Text.join, List.intercalate_cons_cons]
      simp only [Text.join, List.length_append, List.length_cons] at ih ⊢
      omega

/-! ### Brackets -/

/-- With fuel enough for its length, a text is read as an item, whatever stands behind it and
does not go on a number. -/
def ReadBy {α : Type} (read : Nat → Text → Option (α × Text)) (s : Text) (x : α) : Prop :=
  ∀ fuel rest, s.length < fuel → Delimited rest → read fuel (s ++ rest) = some (x, rest)

/-- A text is read as a value. -/
def ReadAs : Text → Value → Prop := ReadBy value?

theorem ReadAs.intro {s : Text} {v : Value} (h : ∀ fuel rest, s.length ≤ fuel → Delimited rest →
    value? (fuel + 1) (s ++ rest) = some (v, rest)) : ReadAs s v := by
  intro fuel rest hfuel hrest
  cases fuel with
  | zero => exact absurd hfuel (Nat.not_lt_zero _)
  | succ fuel => exact h fuel rest (Nat.le_of_lt_succ hfuel) hrest

/-- A text is read as a field of an object. -/
def FieldAs : Text → Text × Value → Prop := ReadBy fun fuel => field? (value? fuel)

/-- The text between two brackets, both included, when there is something between them. -/
theorem bracket_eq (opening closing : UInt16) (gap indent : Text) {texts : List Text} (h : texts ≠ []) :
    bracket opening closing gap indent texts =
      opening :: (lineBreak gap (indent ++ gap) ++
        (Text.join (0x2C :: lineBreak gap (indent ++ gap)) texts ++ (lineBreak gap indent ++ [closing]))) := by
  cases texts with
  | nil => exact absurd rfl h
  | cons t rest => simp only [bracket, List.append_assoc]

/-- Each text between brackets is shorter than the whole, by the brackets. -/
theorem length_lt_bracket (opening closing : UInt16) (gap indent : Text) {texts : List Text} {s : Text}
    (h : s ∈ texts) : s.length + 1 < (bracket opening closing gap indent texts).length := by
  have hjoin : s.length ≤ (Text.join (0x2C :: lineBreak gap (indent ++ gap)) texts).length :=
    length_le_join h
  rw [bracket_eq opening closing gap indent (List.ne_nil_of_mem h)]
  simp only [List.length_cons, List.length_append, List.length_nil]
  omega

/-- What stands behind the opening bracket is read as the items between the brackets. -/
theorem listed_bracket {α : Type} {read : Nat → Text → Option (α × Text)} {close : UInt16}
    {gap indent : Text} (hclose : close = 0x5D ∨ close = 0x7D) (hgap : Blank gap) (hindent : Blank indent)
    {texts : List Text} {xs : List α} (h : List.Forall₂ (ReadBy read) texts xs) (hne : texts ≠ [])
    (opening : UInt16) {fuel : Nat} (hread : ∀ b t, Blank b → read fuel (b ++ t) = read fuel t)
    (hfuel : (bracket opening close gap indent texts).length ≤ fuel) (rest : Text) :
    ∃ body, bracket opening close gap indent texts ++ rest = opening :: body ∧
      listed? (read fuel) close (body.length + 1) [] body = some (xs, rest) := by
  have hinner : Blank (lineBreak gap (indent ++ gap)) :=
    lineBreak_blank fun u hu => (List.mem_append.mp hu).elim (hindent u) (hgap u)
  have hshort : ∀ s ∈ texts, s.length < fuel := fun s hs => by
    have := length_lt_bracket opening close gap indent hs
    omega
  have hitems := ((List.forall₂_and_left _ _).mpr ⟨hshort, h⟩).imp
    fun s x (hs : s.length < fuel ∧ ReadBy read s x) rest => hs.2 fuel rest hs.1
  refine ⟨lineBreak gap (indent ++ gap) ++ (Text.join (0x2C :: lineBreak gap (indent ++ gap)) texts ++
    (lineBreak gap indent ++ close :: rest)), ?_, ?_⟩
  · rw [bracket_eq opening close gap indent hne]
    simp only [List.cons_append, List.append_assoc, List.nil_append]
  · have hcount := count_le_join 0x2C (lineBreak gap (indent ++ gap)) texts
    rw [listed_blank fun t => hread _ t hinner]
    refine listed_join (fun t => hread _ t hinner) (lineBreak_blank hindent) hclose rest hitems hne _ ?_ []
    simp only [List.length_append]
    omega

/-- No value starts with a closing bracket. -/
theorem value_closing {t rest : Text} (h : skipBlank t = 0x5D :: rest) (fuel : Nat) : value? fuel t = none := by
  cases fuel with
  | zero => rfl
  | succ fuel =>
    rw [value?, h]
    rfl

theorem value_array {fuel : Nat} {body rest : Text} {vs : List Value}
    (h : items? (value? fuel) (body.length + 1) [] body = some (vs, rest)) :
    value? (fuel + 1) (0x5B :: body) = some (.array vs, rest) := by
  have hopen : skipBlank (0x5B :: body) = 0x5B :: body := skipBlank_cons (by decide) body
  simp only [value?, hopen]
  split
  · next hskip =>
    rw [items?, value_closing hskip] at h
    cases h
  · rw [h]
    rfl

theorem value_object {fuel : Nat} {body rest : Text} {fs : Value.Fields}
    (h : fields? (value? fuel) (body.length + 1) [] body = some (fs, rest)) :
    value? (fuel + 1) (0x7B :: body) = some (.ofFields fs, rest) := by
  have hopen : skipBlank (0x7B :: body) = 0x7B :: body := skipBlank_cons (by decide) body
  simp only [value?, hopen]
  split
  · next hskip =>
    rw [fields?, field?, hskip] at h
    cases h
  · rw [h]
    rfl

/-- **A bracket of texts that are read as values is read as their array.** -/
theorem array_readAs {gap indent : Text} (hgap : Blank gap) (hindent : Blank indent) {texts : List Text}
    {vs : List Value} (h : List.Forall₂ ReadAs texts vs) :
    ReadAs (bracket 0x5B 0x5D gap indent texts) (.array vs) := by
  refine .intro fun fuel rest hfuel _ => ?_
  by_cases hne : texts = []
  · subst hne
    obtain rfl := List.forall₂_nil_left_iff.mp h
    rfl
  · obtain ⟨body, hbody, hlisted⟩ := listed_bracket (.inl rfl) hgap hindent h hne 0x5B
      (fun b t hb => value_blank hb fuel t) hfuel rest
    rw [hbody]
    exact value_array ((items_eq ..).trans hlisted)

/-- **A bracket of texts that are read as fields is read as their object.** -/
theorem object_readAs {gap indent : Text} (hgap : Blank gap) (hindent : Blank indent) {texts : List Text}
    {fs : Value.Fields} (h : List.Forall₂ FieldAs texts fs) :
    ReadAs (bracket 0x7B 0x7D gap indent texts) (.ofFields fs) := by
  refine .intro fun fuel rest hfuel _ => ?_
  by_cases hne : texts = []
  · subst hne
    obtain rfl := List.forall₂_nil_left_iff.mp h
    rfl
  · obtain ⟨body, hbody, hlisted⟩ := listed_bracket (.inr rfl) hgap hindent h hne 0x7B
      (fun b t hb => field_blank hb (value? fuel) t) hfuel rest
    rw [hbody]
    exact value_object ((fields_eq ..).trans hlisted)

/-! ### Literals -/

theorem null_readAs : ReadAs "null" .null := by
  refine .intro fun fuel rest _ _ => ?_
  rfl

theorem bool_readAs (b : Bool) : ReadAs (if b then "true" else "false") (.bool b) := by
  refine .intro fun fuel rest _ _ => ?_
  cases b <;> rfl

theorem quote_readAs (t : Text) : ReadAs (quote t) (.string t) := by
  refine .intro fun fuel rest _ _ => ?_
  exact value_quote fuel t rest

theorem word_absent {c u : UInt16} (h : c ≠ u) (w tail : Text) : word? (c :: w) (u :: tail) = none := by
  simp [word?, Text.startsWith, h]

/-- A value that starts with a digit or a minus sign is a number. -/
theorem value_number {u : UInt16} (hu : u = 0x2D ∨ Value.isDigit u = true) (tail : Text) (fuel : Nat) :
    value? (fuel + 1) (u :: tail) = (number? (u :: tail)).map fun (n, rest) => (.number n, rest) := by
  have hne (w : UInt16) (hminus : w ≠ 0x2D) (hdigit : Value.isDigit w = false) : u ≠ w := by
    rintro rfl
    rcases hu with rfl | hu
    · exact hminus rfl
    · rw [hu] at hdigit
      cases hdigit
  have hblank : isBlank u = false := by
    simp only [isBlank, Bool.or_eq_false_iff, beq_eq_false_iff_ne]
    exact ⟨⟨⟨hne 0x20 (by decide) (by decide), hne 0x09 (by decide) (by decide)⟩,
      hne 0x0A (by decide) (by decide)⟩, hne 0x0D (by decide) (by decide)⟩
  have hnull : word? "null" (u :: tail) = none :=
    word_absent (hne 0x6E (by decide) (by decide)).symm [0x75, 0x6C, 0x6C] tail
  have htrue : word? "true" (u :: tail) = none :=
    word_absent (hne 0x74 (by decide) (by decide)).symm [0x72, 0x75, 0x65] tail
  have hfalse : word? "false" (u :: tail) = none :=
    word_absent (hne 0x66 (by decide) (by decide)).symm [0x61, 0x6C, 0x73, 0x65] tail
  rw [value?, skipBlank_cons hblank]
  split
  · next h => exact absurd (List.cons.inj h).1 (hne 0x22 (by decide) (by decide))
  · next h => exact absurd (List.cons.inj h).1 (hne 0x5B (by decide) (by decide))
  · next h => exact absurd (List.cons.inj h).1 (hne 0x7B (by decide) (by decide))
  · simp only [hnull, htrue, hfalse]

theorem numeral_head (n : Numeral) : ∃ u tail, n.text = u :: tail ∧ (u = 0x2D ∨ Value.isDigit u = true) := by
  unfold Numeral.text
  cases n.negative with
  | true => exact ⟨0x2D, n.unsigned, rfl, .inl rfl⟩
  | false =>
    obtain ⟨u, tail, hwhole⟩ := List.exists_cons_of_ne_nil n.whole_ne
    refine ⟨u, tail ++ (pointed n.part ++ marked n.exponent), ?_, .inr (n.whole_digits u ?_)⟩
    · rw [if_neg Bool.false_ne_true, Numeral.unsigned, hwhole]
      rfl
    · rw [hwhole]
      exact List.mem_cons_self

theorem numeral_readAs (n : Numeral) : ReadAs n.text (.number n.value) := by
  refine .intro fun fuel rest _ hrest => ?_
  have hnumber := number_numeral n hrest
  obtain ⟨u, tail, htext, hu⟩ := numeral_head n
  rw [htext, List.cons_append] at hnumber ⊢
  rw [value_number hu, hnumber]
  rfl

/-- A key, a colon and a text that is read as a value. -/
theorem field_readAs (gap key : Text) {s : Text} {v : Value} (hs : ReadAs s v) :
    FieldAs (quote key ++ (if gap.isEmpty then [0x3A] else [0x3A, 0x20]) ++ s) (key, v) := by
  intro fuel rest hfuel hrest
  have hvalue : value? fuel (s ++ rest) = some (v, rest) := by
    refine hs fuel rest ?_ hrest
    simp only [List.length_append] at hfuel
    omega
  have hspace : value? fuel (0x20 :: (s ++ rest)) = value? fuel (s ++ rest) :=
    value_blank (b := [0x20]) (fun u hu => by rw [List.mem_singleton.mp hu]; rfl) fuel (s ++ rest)
  have hcolon : ∃ t, (if gap.isEmpty then [0x3A] else [0x3A, 0x20]) ++ (s ++ rest) = 0x3A :: t ∧
      value? fuel t = some (v, rest) := by
    split
    · exact ⟨_, rfl, hvalue⟩
    · exact ⟨_, rfl, hspace.trans hvalue⟩
  obtain ⟨t, ht, hread⟩ := hcolon
  have htext (colon : Text) : quote key ++ colon ++ s ++ rest =
      0x22 :: (key.codePoints.flatMap quotePoint ++ 0x22 :: (colon ++ (s ++ rest))) := by
    simp [quote]
  have hquote (t : Text) : skipBlank (0x22 :: t) = 0x22 :: t := skipBlank_cons (by decide) t
  have hskip : skipBlank (0x3A :: t) = 0x3A :: t := skipBlank_cons (by decide) t
  show field? (value? fuel) _ = _
  rw [htext, field?]
  simp only [hquote, stringBody_quote, ht, hskip, hread, Option.map_some]

/-! ### Values -/

/-- What the text of a number is read as: the number its digits stand for, or null. -/
def carriedNumber (x : Number) : Value :=
  match number? x.toText with
  | some (y, _) => .number y
  | none => .null

mutual

/-- What the text of a value is read as. -/
def carried : Value → Value
  | .undefined => .null
  | .null => .null
  | .bool b => .bool b
  | .number x => carriedNumber x
  | .bigint _ => .null
  | .regexp _ _ => .null
  | .enclosing => .null
  | .string t => .string t
  | .array items => .array (carriedItems items)
  | .object fields => .ofFields (carriedFields fields)

def carriedItems : List Value → List Value
  | [] => []
  | v :: rest => carried v :: carriedItems rest

def carriedFields : List (Text × Value) → List (Text × Value)
  | [] => []
  | f :: rest => if isShown f.2 then (f.1, carried f.2) :: carriedFields rest else carriedFields rest

end

theorem carriedItems_map (items : List Value) : carriedItems items = items.map carried := by
  induction items with
  | nil => rfl
  | cons v rest ih => rw [carriedItems, ih, List.map_cons]

/-- The fields that are shown are carried, each by itself. -/
theorem carriedFields_filter (fields : Value.Fields) :
    carriedFields fields = (fields.filter fun f => isShown f.2).map fun f => (f.1, carried f.2) := by
  induction fields with
  | nil => rfl
  | cons f rest ih =>
    rw [carriedFields, ih, List.filter_cons]
    split <;> rfl

theorem printAt_number (gap indent : Text) (x : Number) :
    ReadAs (printAt gap indent (.number x)) (carriedNumber x) := by
  have hfinite (h : x.toDyadic?.isSome = true) : ReadAs x.toText (carriedNumber x) := by
    obtain ⟨n, hn⟩ := Number.toText_numeral h
    have hnumber := number_numeral n delimited_nil
    rw [List.append_nil, hn] at hnumber
    rw [carriedNumber, hnumber, ← hn]
    exact numeral_readAs n
  cases x with
  | infinite negative => cases negative <;> exact null_readAs
  | notANumber => exact null_readAs
  | int n => exact hfinite rfl
  | negativeZero => exact hfinite rfl
  | dyadic negative m e => exact hfinite rfl

mutual

/-- The text of a value is read as what is carried of it. -/
theorem printAt_readAs {gap : Text} (hgap : Blank gap) :
    ∀ (v : Value) {indent : Text}, Blank indent → ReadAs (printAt gap indent v) (carried v)
  | .undefined, _, _ => null_readAs
  | .null, _, _ => null_readAs
  | .bool true, _, _ => bool_readAs true
  | .bool false, _, _ => bool_readAs false
  | .number x, _, _ => printAt_number gap _ x
  | .bigint _, _, _ => null_readAs
  | .regexp _ _, _, _ => null_readAs
  | .enclosing, _, _ => null_readAs
  | .string t, _, _ => quote_readAs t
  | .array items, indent, hindent => by
    have hinner : Blank (indent ++ gap) := fun u hu => (List.mem_append.mp hu).elim (hindent u) (hgap u)
    exact array_readAs hgap hindent (printItems_readAs hgap items hinner)
  | .object fields, indent, hindent => by
    have hinner : Blank (indent ++ gap) := fun u hu => (List.mem_append.mp hu).elim (hindent u) (hgap u)
    exact object_readAs hgap hindent (printFields_readAs hgap fields hinner)

theorem printItems_readAs {gap : Text} (hgap : Blank gap) :
    ∀ (items : List Value) {indent : Text}, Blank indent →
      List.Forall₂ ReadAs (printItems gap indent items) (carriedItems items)
  | [], _, _ => .nil
  | v :: rest, _, hindent => .cons (printAt_readAs hgap v hindent) (printItems_readAs hgap rest hindent)

theorem printFields_readAs {gap : Text} (hgap : Blank gap) :
    ∀ (fields : List (Text × Value)) {indent : Text}, Blank indent →
      List.Forall₂ FieldAs (printFields gap indent fields) (carriedFields fields)
  | [], _, _ => .nil
  | f :: rest, indent, hindent => by
    have hrest := printFields_readAs hgap rest hindent
    rw [printFields, carriedFields]
    by_cases hshown : isShown f.2 = true
    · rw [if_pos hshown, if_pos hshown]
      exact .cons (field_readAs gap f.1 (printAt_readAs hgap f.2 hindent)) hrest
    · rw [if_neg hshown, if_neg hshown]
      exact hrest

end

/-- **The text of a value is a JSON text**, whatever the value holds, and whatever blanks
indent it. -/
theorem read_print {gap : Text} (hgap : Blank gap) (v : Value) : read? (print gap v) = some (carried v) := by
  have hread := printAt_readAs hgap v blank_nil _ [] (Nat.lt_succ_self _) delimited_nil
  rw [List.append_nil] at hread
  rw [read?, print, hread]
  rfl

end EcmaModule.Json
