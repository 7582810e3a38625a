import EcmaModule.Diagnostic.Snippet
import EcmaModule.Proofs.Number.Text
import EcmaModule.Proofs.SourceMap.Position

/-! Where the caret of a record stands.

A record that is placed by an index of its file is shown with the line of that index, and below it a
caret stands under the unit at the index, or right behind the line if the index is at its end
(`format_caret`). The number in front of the line does not matter, as the line below starts with
as many blanks. Only between a carriage return and its line feed there is an index that is on no
line at all. -/
namespace EcmaModule

namespace Text

/-! ### The end of a line -/

/-- An index between a carriage return and its line feed. -/
def InsideBreak (t : Text) (i : Nat) : Prop := 0 < i ∧ t[i - 1]? = some 0x0D ∧ t[i]? = some 0x0A

instance (t : Text) (i : Nat) : Decidable (InsideBreak t i) := inferInstanceAs (Decidable (_ ∧ _ ∧ _))

/-- A line ends at an index: the text ends there, or a terminator stands there. -/
def EndsLine (t : Text) (i : Nat) : Prop := ∀ u, t[i]? = some u → isTerminator u = true

/-- Behind the text of a line stands its terminator, or the whole text ends. -/
theorem Broken.behind {ls : List Line} (h : Broken ls) {i : Nat} {l : Line} (hl : ls[i]? = some l) :
    l.terminator ++ joinLines (ls.drop (i + 1)) = [] ∨ Ended l ∧ i + 1 < ls.length := by
  induction h generalizing i with
  | last content =>
    obtain ⟨rfl, rfl⟩ : i = 0 ∧ l = ⟨content, []⟩ := by simpa [List.getElem?_singleton, eq_comm] using hl
    exact .inl rfl
  | @cons first rest hfirst hrest ih =>
    cases i with
    | zero =>
      obtain rfl := Option.some.inj hl
      have hmore : 0 < rest.length := by cases hrest <;> simp
      exact .inr ⟨hfirst, Nat.succ_lt_succ hmore⟩
    | succ i => exact (ih hl).imp_right (And.imp_right Nat.succ_lt_succ)

/-- One line more adds its units. -/
theorem joinLines_take_succ {ls : List Line} {i : Nat} {l : Line} (hl : ls[i]? = some l) :
    joinLines (ls.take (i + 1)) = joinLines (ls.take i) ++ (l.content ++ l.terminator) := by
  rw [List.take_add_one, hl, joinLines, joinLines, List.flatMap_append]
  simp

theorem Ended.head {l : Line} (h : Ended l) (rest : Text) :
    ∃ u, (l.terminator ++ rest)[0]? = some u ∧ isTerminator u = true := by
  cases h with
  | both content => exact ⟨_, rfl, rfl⟩
  | single content hu => exact ⟨_, rfl, hu⟩

end Text

namespace SourceFile

open Text

variable (f : SourceFile) {i : Nat} {l : Line}

/-- The units from the start of a line on. -/
theorem unit_from_line (hl : f.source.lines[i]? = some l) (k : Nat) : f.source[(f.lineSpan i).start + k]? =
    (l.content ++ (l.terminator ++ joinLines (f.source.lines.drop (i + 1))))[k]? := by
  have haround := joinLines_around hl
  rw [joinLines_lines] at haround
  conv_lhs => rw [haround]
  rw [(f.lineSpan_eq hl).1, List.getElem?_append_right (Nat.le_add_right ..), Nat.add_sub_cancel_left]

/-- An index before the next line, and not between the halves of a terminator, is not behind the text
of its line. -/
theorem column_le (hl : f.source.lines[i]? = some l) {c : Nat}
    (hpos : (f.lineSpan i).start + c ≤ f.source.length)
    (hbreak : ¬ f.source.InsideBreak ((f.lineSpan i).start + c))
    (hnext : i + 1 < f.lineCount → (f.lineSpan i).start + c < (f.lineSpan (i + 1)).start) :
    c ≤ l.content.length := by
  have hunit := f.unit_from_line hl
  rcases (lines_broken f.source).behind hl with hend | ⟨hended, hmore⟩
  · rw [hend, List.append_nil] at hunit
    by_contra hpast
    -- The text would end before the index.
    have hsource := List.getElem?_eq_none_iff.mp ((hunit l.content.length).trans (by simp))
    omega
  · have hstart := (f.lineSpan_eq (List.getElem?_eq_getElem hmore)).1
    rw [joinLines_take_succ hl, List.length_append, ← (f.lineSpan_eq hl).1, List.length_append] at hstart
    have hbefore := hnext (f.lineCount_eq ▸ hmore)
    by_contra hpast
    cases hended with
    | single content hu =>
      simp only [List.length_singleton] at hstart hpast
      omega
    | both content =>
      -- Only the index of the line feed is left.
      obtain rfl : c = content.length + 1 := by
        simp only [List.length_cons, List.length_nil] at hstart hpast
        omega
      refine hbreak ⟨Nat.succ_pos _, ?_, ?_⟩
      · show f.source[(f.lineSpan i).start + content.length]? = _
        rw [hunit, List.getElem?_append_right (Nat.le_refl _), Nat.sub_self]
        rfl
      · rw [hunit, List.getElem?_append_right (Nat.le_add_right ..), Nat.add_sub_cancel_left]
        rfl

/-- **What stands at an index is what stands at its column**, or the line ends there. -/
theorem position_in_line {pos : Nat} (hpos : pos ≤ f.source.length) (hbreak : ¬ f.source.InsideBreak pos) :
    ∃ (n c : Nat) (shown : Text), (f.position pos).line = n ∧ (f.position pos).column = c ∧
      f.lineText? n = some shown ∧ (∀ u ∈ shown, isTerminator u = false) ∧
      (¬ f.source.EndsLine pos → shown[c]? = f.source[pos]?) ∧ (f.source.EndsLine pos → shown.length = c) := by
  obtain ⟨i, hi, hline, hcolumn, hstart, hlater⟩ := f.position_spec pos
  obtain ⟨l, hl⟩ : ∃ l, f.source.lines[i]? = some l := ⟨_, List.getElem?_eq_getElem (f.lineCount_eq ▸ hi)⟩
  obtain ⟨c, rfl⟩ := Nat.exists_eq_add_of_le hstart
  have hle := f.column_le hl hpos hbreak (hlater (i + 1) (Nat.lt_succ_self i))
  have hunbroken := lines_unbroken f.source l (List.mem_of_getElem? hl)
  refine ⟨i + 1, c, l.content, hline, by omega,
    (f.lineText_succ i).trans (congrArg (Option.map Line.content) hl), hunbroken, ?_⟩
  rcases Nat.lt_or_eq_of_le hle with hlt | rfl
  · have hat : f.source[(f.lineSpan i).start + c]? = l.content[c]? := by
      rw [f.unit_from_line hl, List.getElem?_append_left hlt]
    refine ⟨fun _ => hat.symm, fun hend => ?_⟩
    -- No line ends with a unit of its text.
    have hterminator := hend _ (hat.trans (List.getElem?_eq_getElem hlt))
    rw [hunbroken _ (List.getElem_mem hlt)] at hterminator
    cases hterminator
  · refine ⟨fun hon => absurd (fun u hu => ?_) hon, fun _ => rfl⟩
    rw [f.unit_from_line hl, List.getElem?_append_right (Nat.le_refl _), Nat.sub_self] at hu
    rcases (lines_broken f.source).behind hl with hnothing | ⟨hended, -⟩
    · rw [hnothing] at hu
      cases hu
    · obtain ⟨v, hv, hterminator⟩ := hended.head (joinLines (f.source.lines.drop (i + 1)))
      obtain rfl := Option.some.inj (hv.symm.trans hu)
      exact hterminator

end SourceFile

namespace Snippet

open Text

/-- A caret points at an index: it is the only one, and stands under the unit at the index or, where a
line ends, right behind the line. -/
structure Points (source : Text) (pos : Nat) (shown below : Text) (q : Nat) : Prop where
  caret : ∀ i, below[i]? = some 0x5E ↔ i = q
  unit : ¬ source.EndsLine pos → shown[q]? = source[pos]?
  behind : source.EndsLine pos → shown.length = q

/-- What stands in front of a line. -/
def gutter (number : Text) : Text := number ++ Text.ofString " | "

/-- What stands in front of the caret. -/
def indent (number : Text) (column : Nat) : Text := gutter (spaces number.length) ++ spaces column

theorem length_gutter (number : Text) : (gutter number).length = number.length + 3 := List.length_append

theorem length_indent (number : Text) (column : Nat) :
    (indent number column).length = (gutter number).length + column := by
  simp [indent, length_gutter, spaces, Text.replicate]

theorem mem_bar {u : UInt16} (h : u ∈ Text.ofString " | ") : u = 0x20 ∨ u = 0x7C := by
  simpa [Text.ofString, Text.unitsOf, or_comm] using h

theorem mem_indent {number : Text} {column : Nat} {u : UInt16} (h : u ∈ indent number column) :
    u = 0x20 ∨ u = 0x7C := by
  simp only [indent, gutter, spaces, Text.replicate, List.mem_append, List.mem_replicate] at h
  rcases h with ((⟨-, rfl⟩ | h) | ⟨-, rfl⟩)
  · exact .inl rfl
  · exact mem_bar h
  · exact .inl rfl

theorem only_caret {lead : Text} (h : (0x5E : UInt16) ∉ lead) (i : Nat) :
    (lead ++ [0x5E])[i]? = some 0x5E ↔ i = lead.length := by
  rcases Nat.lt_or_ge i lead.length with hlt | hge
  · rw [List.getElem?_append_left hlt]
    exact iff_of_false (fun hat => h (List.mem_of_getElem? hat)) (by omega)
  · rw [List.getElem?_append_right hge, List.getElem?_singleton]
    simp
    omega

theorem gutter_unbroken (n : Nat) : ∀ u ∈ gutter (Text.ofInt n), isTerminator u = false := by
  intro u hu
  rcases List.mem_append.mp hu with hu | hu
  · have hdigit := decimal_digits n u (Text.ofString_toString n ▸ hu)
    simp only [Value.isDigit, Bool.and_eq_true, decide_eq_true_eq] at hdigit
    simp only [isTerminator, Bool.or_eq_false_iff, beq_eq_false_iff_ne]
    grind
  · rcases mem_bar hu with rfl | rfl <;> rfl

/-- The text of a record that is placed on a line. -/
theorem format_excerpt {r : Record} {f : SourceFile} {line : Text} {c : Nat}
    (hline : f.lineText? r.loc.line = some line) (hcolumn : r.loc.column = c) :
    ∃ above notes, format? r (some f) = some (Text.join "\n" (above ++
      [gutter (Text.ofInt r.loc.line) ++ line, indent (Text.ofInt r.loc.line) c ++ [0x5E]] ++ notes)) := by
  have hshown : excerpt? r.loc line = some [[], gutter (Text.ofInt r.loc.line) ++ line,
      indent (Text.ofInt r.loc.line) c ++ [0x5E]] := by
    rw [excerpt?, if_neg (by omega), hcolumn]
    rfl
  simp only [format?, Option.bind_some, hline, hshown]
  exact ⟨[_, _, _, _], _, rfl⟩

/-- **The caret points at the unit of an index.** A record that is placed by an index of its file is
shown with the number and the text of the line that the index is on. The only caret of the
line below stands under the unit at the index, or right behind the line where it ends at the
index. None of the two holds a terminator, so they are two lines of the whole text. -/
theorem format_caret (f : SourceFile) (r : Record) {pos : Nat} (hpos : pos ≤ f.source.length)
    (hbreak : ¬ f.source.InsideBreak pos) (hloc : r.loc = f.position pos) :
    ∃ line above notes below q, f.lineText? r.loc.line = some line ∧
      let shown := Text.ofInt r.loc.line ++ Text.ofString " | " ++ line
      format? r (some f) = some (Text.join "\n" (above ++ [shown, below] ++ notes)) ∧
        Points f.source pos shown below q ∧
        ∀ t ∈ [shown, below], ∀ u ∈ t, isTerminator u = false := by
  obtain ⟨n, c, line, hnumber, hcolumn, hline, hunbroken, hunit, hend⟩ := f.position_in_line hpos hbreak
  rw [← hloc] at hnumber hcolumn
  rw [← hnumber] at hline
  obtain ⟨above, notes, hformat⟩ := format_excerpt hline hcolumn
  have hlength := length_indent (Text.ofInt r.loc.line) c
  refine ⟨line, above, notes, _, (indent (Text.ofInt r.loc.line) c).length, hline, hformat, ?_, ?_⟩
  · refine ⟨only_caret fun h => ?_, fun hon => ?_, fun hat => ?_⟩
    · rcases mem_indent h with h | h <;> cases h
    · rw [hlength, ← hunit hon]
      exact (List.getElem?_append_right (Nat.le_add_right ..)).trans (by rw [Nat.add_sub_cancel_left])
    · rw [hlength, ← hend hat]
      exact List.length_append
  · intro t ht u hu
    simp only [List.mem_cons, List.not_mem_nil, or_false] at ht
    rcases ht with rfl | rfl
    · rcases List.mem_append.mp hu with hu | hu
      · rw [hnumber] at hu
        exact gutter_unbroken n u hu
      · exact hunbroken u hu
    · rcases List.mem_append.mp hu with hu | hu
      · rcases mem_indent hu with rfl | rfl <;> rfl
      · obtain rfl := List.mem_singleton.mp hu
        rfl

/-- The tenth line of a source, behind a pair and an empty line; its number has a digit more. -/
def tenLines : SourceFile :=
  .create "m.js" (Text.ofString "a" ++ [0x0D, 0x0A] ++ Text.replicate 7 0x0A ++ [0x2028] ++ Text.ofString "b = ]") 0

/-- A record on its last unit. -/
def strayBracket : Record := ⟨"E_SYNTAX", .error, "Unexpected token", "m.js", ⟨17, 17⟩, ⟨10, 4⟩, []⟩

theorem caret_tenthLine :
    15 ≤ tenLines.source.length ∧ ¬ tenLines.source.InsideBreak 15 ∧ strayBracket.loc = tenLines.position 15 ∧
    ∃ line above notes below q, tenLines.lineText? strayBracket.loc.line = some line ∧
      let shown := Text.ofInt strayBracket.loc.line ++ Text.ofString " | " ++ line
      format? strayBracket (some tenLines) = some (Text.join "\n" (above ++ [shown, below] ++ notes)) ∧
        Points tenLines.source 15 shown below q ∧
        ∀ t ∈ [shown, below], ∀ u ∈ t, isTerminator u = false :=
  ⟨by decide, by decide, by decide +kernel,
    format_caret tenLines strayBracket (by decide) (by decide) (by decide +kernel)⟩

end Snippet

end EcmaModule
