import EcmaModule.Proofs.SourceMap.Cursor

/-! Lines and positions of a file.

The lines of a file are its source, cut behind every terminator (`lines_division`): nothing is lost,
no line holds a terminator, and a carriage return is not cut from its line feed. A position names
the line that an index lies on, and how far behind the start of that line it lies; so positions
are ordered like the indices they belong to (`positions_partition`). -/
namespace EcmaModule

namespace Text

/-- A text, cut into lines. -/
structure Division (t : Text) (ls : List Line) : Prop where
  joined : joinLines ls = t
  /-- All lines but the last end with one terminator. -/
  broken : Broken ls
  unbroken : ∀ l ∈ ls, ∀ u ∈ l.content, isTerminator u = false
  /-- A carriage return that ends a line alone has no line feed behind it. -/
  whole : ∀ i l, ls[i]? = some l → l.terminator = [0x0D] → (joinLines (ls.drop (i + 1))).head? ≠ some 0x0A

/-! ### Cutting a text -/

theorem lines_ne_nil (t : Text) : t.lines ≠ [] := by
  intro h
  have hbroken := lines_broken t
  rw [h] at hbroken
  cases hbroken

theorem lines_unbroken (t : Text) : ∀ l ∈ t.lines, ∀ u ∈ l.content, isTerminator u = false := by
  fun_induction lines t with
  | case1 => simp
  | case2 rest ih => simpa using ih
  | case3 u rest _ _ ih => simpa using ih
  | case4 u rest _ hu ih =>
    -- The first line gets one unit more, which is no terminator.
    obtain ⟨l, more, hlines⟩ := List.exists_cons_of_ne_nil (lines_ne_nil rest)
    rw [hlines] at ih ⊢
    intro l' hl' v hv
    rcases List.mem_cons.mp hl' with rfl | hl'
    · rcases List.mem_cons.mp hv with rfl | hv
      · exact Bool.eq_false_iff.mpr hu
      · exact ih l List.mem_cons_self v hv
    · exact ih l' (List.mem_cons_of_mem l hl') v hv

theorem lines_whole (t : Text) (i : Nat) (l : Line) (hl : t.lines[i]? = some l)
    (hreturn : l.terminator = [0x0D]) : (joinLines (t.lines.drop (i + 1))).head? ≠ some 0x0A := by
  fun_induction lines t generalizing i l with
  | case1 =>
    obtain ⟨rfl, rfl⟩ : i = 0 ∧ l = ⟨[], []⟩ := by simpa [List.getElem?_singleton, eq_comm] using hl
    cases hreturn
  | case2 rest ih =>
    cases i with
    | zero =>
      obtain rfl := Option.some.inj hl
      exact absurd hreturn (by decide)
    | succ i => exact ih i l hl hreturn
  | case3 u rest hpair hu ih =>
    cases i with
    | zero =>
      obtain rfl := Option.some.inj hl
      obtain rfl : u = 0x0D := List.singleton_inj.mp hreturn
      -- A line feed behind it would have been taken for the same terminator.
      show (joinLines (lines rest)).head? ≠ _
      rw [joinLines_lines]
      intro hfeed
      obtain ⟨tail, rfl⟩ := List.head?_eq_some_iff.mp hfeed
      exact hpair tail rfl rfl
    | succ i => exact ih i l hl hreturn
  | case4 u rest _ _ ih =>
    obtain ⟨first, more, hlines⟩ := List.exists_cons_of_ne_nil (lines_ne_nil rest)
    rw [hlines] at ih hl ⊢
    cases i with
    | zero =>
      obtain rfl := Option.some.inj hl
      exact ih 0 first rfl hreturn
    | succ i => exact ih (i + 1) l hl hreturn

/-- **A text is the text of its lines**, cut behind every terminator. -/
theorem lines_division (t : Text) : Division t t.lines where
  joined := joinLines_lines t
  broken := lines_broken t
  unbroken := lines_unbroken t
  whole := lines_whole t

/-- A text is what stands before a line of it, that line, and what stands behind. -/
theorem joinLines_around {ls : List Line} {i : Nat} {l : Line} (h : ls[i]? = some l) :
    joinLines ls =
      joinLines (ls.take i) ++ (l.content ++ (l.terminator ++ joinLines (ls.drop (i + 1)))) := by
  induction ls generalizing i with
  | nil => cases h
  | cons first rest ih =>
    cases i with
    | zero =>
      obtain rfl := Option.some.inj h
      exact (joinLines_cons first rest).trans (List.append_assoc ..)
    | succ i =>
      rw [joinLines_cons, ih h, List.take_succ_cons, joinLines_cons, List.drop_succ_cons]
      exact (List.append_assoc ..).symm

theorem slice_middle (a b c : Text) : (a ++ (b ++ c)).slice a.length (a.length + b.length : Nat) = b := by
  rw [slice_natCast, ← List.append_assoc, ← List.length_append, List.take_left, List.drop_left]

/-- Where a line starts, counted from one. -/
def lineStart (ls : List Line) (line : Int) : Int := (joinLines (ls.take (line - 1).toNat)).length

end Text

namespace LineSpan

open Text

theorem length_layOut (start byteStart : Nat) (ls : List Line) :
    (layOut start byteStart ls).length = ls.length := by
  induction ls generalizing start byteStart with
  | nil => rfl
  | cons l rest ih => rw [layOut, List.length_cons, ih, List.length_cons]

/-- A line lies behind the lines before it, and is as long as its content. -/
theorem layOut_getElem (start byteStart : Nat) (ls : List Line) (i : Nat) (l : Line) (hl : ls[i]? = some l) :
    ∃ s, (layOut start byteStart ls)[i]? = some s ∧ s.start = start + (joinLines (ls.take i)).length ∧
      s.stop = s.start + l.content.length := by
  induction ls generalizing start byteStart i with
  | nil => cases hl
  | cons first rest ih =>
    cases i with
    | zero =>
      obtain rfl := Option.some.inj hl
      exact ⟨_, rfl, rfl, rfl⟩
    | succ i =>
      obtain ⟨s, hs, hstart, hstop⟩ := ih (start + first.content.length + first.terminator.length)
        (byteStart + Utf8.byteLength (first.content ++ first.terminator)) i hl
      refine ⟨s, hs, ?_, hstop⟩
      rw [hstart, List.take_succ_cons, joinLines_cons]
      simp only [List.length_append]
      omega

end LineSpan

namespace SourceFile

open Text

/-! ### Lines of a file -/

theorem lineCount_eq (f : SourceFile) : f.lineCount = f.source.lines.length := by
  rw [lineCount, f.table_eq, LineSpan.ofText, List.size_toArray, LineSpan.length_layOut]

theorem lineSpan_eq (f : SourceFile) {i : Nat} {l : Line} (hl : f.source.lines[i]? = some l) :
    (f.lineSpan i).start = (joinLines (f.source.lines.take i)).length ∧
      (f.lineSpan i).stop = (f.lineSpan i).start + l.content.length := by
  obtain ⟨s, hs, hstart, hstop⟩ := LineSpan.layOut_getElem 0 0 f.source.lines i l hl
  have hspan : f.lineSpan i = s := by
    rw [lineSpan, f.table_eq, LineSpan.get, LineSpan.ofText]
    simp [hs]
  rw [hspan, hstart, hstop, Nat.zero_add]
  exact ⟨rfl, by omega⟩

theorem lineText_succ (f : SourceFile) (i : Nat) :
    f.lineText? (i + 1) = (f.source.lines[i]?).map Line.content := by
  cases hl : f.source.lines[i]? with
  | none =>
    have hlast := List.getElem?_eq_none_iff.mp hl
    rw [← f.lineCount_eq] at hlast
    exact if_pos (.inr (by omega))
  | some l =>
    obtain ⟨hi, hget⟩ := List.getElem?_eq_some_iff.mp hl
    rw [← f.lineCount_eq] at hi
    obtain ⟨hstart, hstop⟩ := f.lineSpan_eq hl
    have hline : ((i : Int) + 1 - 1).toNat = i := by omega
    have htext : f.lineText? (i + 1) =
        some (f.source.slice (f.lineSpan i).start (f.lineSpan i).stop) := by
      rw [lineText?, if_neg (by omega), hline]
    have hmiddle := slice_middle (joinLines (f.source.lines.take i)) l.content
      (l.terminator ++ joinLines (f.source.lines.drop (i + 1)))
    rw [← joinLines_around hl, joinLines_lines] at hmiddle
    rw [htext, hstop, hstart, hmiddle, Option.map_some]

/-- Only the numbers of its lines have a text. -/
theorem lineText_eq_none_iff (f : SourceFile) (line : Int) :
    f.lineText? line = none ↔ ¬ (1 ≤ line ∧ line ≤ f.lineCount) := by
  unfold lineText?
  split <;> simp <;> omega

/-! ### Positions -/

/-- **A position names the last line that starts at or before the index**, and the distance from
its start. -/
theorem position_spec (f : SourceFile) (index : Nat) :
    ∃ line < f.lineCount, (f.position index).line = line + 1 ∧
      (f.position index).column = index - (f.lineSpan line).start ∧ (f.lineSpan line).start ≤ index ∧
      ∀ later, line < later → later < f.lineCount → index < (f.lineSpan later).start := by
  obtain ⟨hlt, hstart, hlater⟩ := LineSpan.lineOf_spec f.source index
  rw [← f.table_eq] at hlt hstart hlater
  refine ⟨f.lineOf index, hlt, rfl, rfl, ?_, fun later hline hcount => ?_⟩
  · exact Int.ofNat_le.mp (hstart (Int.natCast_nonneg index))
  · exact Int.ofNat_lt.mp (hlater later hline hcount)

theorem lineStart_succ (f : SourceFile) {line : Nat} (h : line < f.lineCount) :
    lineStart f.source.lines (line + 1) = (f.lineSpan line).start := by
  have hline : ((line : Int) + 1 - 1).toNat = line := by omega
  rw [lineStart, hline, (f.lineSpan_eq (List.getElem?_eq_getElem (f.lineCount_eq ▸ h))).1]

/-- A later index has a later line, or a later column on the same one. -/
theorem position_lt (f : SourceFile) {a b : Nat} (hab : a < b) :
    (f.position a).line < (f.position b).line ∨
      (f.position a).line = (f.position b).line ∧ (f.position a).column < (f.position b).column := by
  obtain ⟨la, hla, hlineA, hcolumnA, hstartA, -⟩ := f.position_spec a
  obtain ⟨lb, hlb, hlineB, hcolumnB, -, hlaterB⟩ := f.position_spec b
  rw [hlineA, hlineB, hcolumnA, hcolumnB]
  rcases Nat.lt_trichotomy la lb with hlt | rfl | hgt
  · exact .inl (by omega)
  · exact .inr ⟨rfl, by omega⟩
  · have := hlaterB la hgt hla
    omega

/-- **The lines make up the source, and positions tell indices apart.** The source of a file is cut
behind every terminator, and these are the lines whose texts the file knows. A position names
the line that holds its index and the distance from the start of that line. So different
indices have different positions, which are ordered like the indices; and no number but
those of the lines has a text. -/
theorem positions_partition (f : SourceFile) :
    (∃ ls, Division f.source ls ∧ f.lineCount = ls.length ∧
      (∀ i : Nat, f.lineText? (i + 1) = (ls[i]?).map Line.content) ∧
      ∀ index : Nat, let p := f.position index
        1 ≤ p.line ∧ p.line ≤ f.lineCount ∧ 0 ≤ p.column ∧ lineStart ls p.line = index - p.column ∧
          (p.line = f.lineCount ∨ index < lineStart ls (p.line + 1))) ∧
    (Function.Injective fun index : Nat => f.position index) ∧
    (∀ a b : Nat, a < b → (f.position a).line < (f.position b).line ∨
      (f.position a).line = (f.position b).line ∧ (f.position a).column < (f.position b).column) ∧
    ∀ line : Int, f.lineText? line = none ↔ ¬ (1 ≤ line ∧ line ≤ f.lineCount) := by
  refine ⟨⟨f.source.lines, lines_division f.source, f.lineCount_eq, f.lineText_succ, fun index => ?_⟩, ?_,
    fun _ _ => f.position_lt, f.lineText_eq_none_iff⟩
  · obtain ⟨line, hlt, hline, hcolumn, hstart, hlater⟩ := f.position_spec index
    intro p
    have hp : p.line = line + 1 := hline
    have hc : p.column = index - (f.lineSpan line).start := hcolumn
    refine ⟨by omega, by omega, by omega, ?_, ?_⟩
    · rw [hp, lineStart_succ f hlt, hc]
      omega
    · by_cases hlast : line + 1 = f.lineCount
      · exact .inl (by omega)
      · have hnext : line + 1 < f.lineCount := by omega
        refine .inr ?_
        rw [hp]
        have := lineStart_succ f hnext
        have hbefore := hlater (line + 1) (Nat.lt_succ_self line) hnext
        push_cast at this
        omega
  · intro a b (hab : f.position a = f.position b)
    by_contra hne
    rcases Nat.lt_or_gt_of_ne hne with hlt | hgt
    · have := f.position_lt hlt
      rw [hab] at this
      omega
    · have := f.position_lt hgt
      rw [hab] at this
      omega

/-- A pair is one terminator, a carriage return before it is another, and the end is on an empty line. -/
example : (create [] [0x61, 0x0D, 0x0D, 0x0A] 0).position 4 = ⟨3, 0⟩ := by
  decide +kernel

end SourceFile

end EcmaModule
