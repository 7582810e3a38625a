import EcmaModule.Proofs.Text.ByteLength
import EcmaModule.SourceMap.Lines

/-! The line table of a text.

The lines of a text make up the text, and every line but the last ends with a
terminator. As a terminator is no half of a pair, no line starts inside one, so the
bytes counted line by line are the bytes up to the line (`ofText_sound`).

`lineOf_spec`: halving finds the line of an index, the last one that starts at or
before it. -/
namespace EcmaModule

namespace Text

/-! ### Lines make up the text -/

/-- The text of consecutive lines. -/
def joinLines (ls : List Line) : Text := ls.flatMap fun l => l.content ++ l.terminator

theorem joinLines_cons (l : Line) (ls : List Line) :
    joinLines (l :: ls) = l.content ++ l.terminator ++ joinLines ls := by
  simp [joinLines]

theorem joinLines_consLine (u : UInt16) (ls : List Line) :
    joinLines (consLine u ls) = u :: joinLines ls := by
  cases ls with
  | nil => rfl
  | cons l rest => simp [consLine, joinLines_cons]

theorem joinLines_lines (t : Text) : joinLines t.lines = t := by
  fun_induction lines t with
  | case1 => rfl
  | case2 rest ih => rw [joinLines_cons, ih]; rfl
  | case3 u rest _ _ ih => rw [joinLines_cons, ih]; rfl
  | case4 u rest _ _ ih => rw [joinLines_consLine, ih]

/-- A line that ends with a terminator: a carriage return and a line feed, or one unit. -/
inductive Ended : Line → Prop where
  | both (content : Text) : Ended ⟨content, [0x0D, 0x0A]⟩
  | single (content : Text) {u : UInt16} (h : isTerminator u = true) : Ended ⟨content, [u]⟩

/-- Lines that all end with a terminator, but for the last. -/
inductive Broken : List Line → Prop where
  | last (content : Text) : Broken [⟨content, []⟩]
  | cons {l : Line} {rest : List Line} (h : Ended l) (hrest : Broken rest) : Broken (l :: rest)

theorem Broken.consLine {ls : List Line} (h : Broken ls) (u : UInt16) : Broken (consLine u ls) := by
  cases h with
  | last content => exact .last (u :: content)
  | cons hl hrest =>
    cases hl with
    | both content => exact .cons (.both (u :: content)) hrest
    | single content ht => exact .cons (.single (u :: content) ht) hrest

theorem lines_broken (t : Text) : Broken t.lines := by
  fun_induction lines t with
  | case1 => exact .last []
  | case2 rest ih => exact .cons (.both []) ih
  | case3 u rest _ ht ih => exact .cons (.single [] ht) ih
  | case4 u rest _ _ ih => exact ih.consLine u

theorem isHigh_terminator {u : UInt16} (h : isTerminator u = true) : isHigh u = false := by
  simp only [isTerminator, Bool.or_eq_true, beq_iff_eq] at h
  rcases h with ((rfl | rfl) | rfl) | rfl <;> rfl

theorem Ended.terminator_pos {l : Line} (h : Ended l) : 0 < l.terminator.length := by
  cases h <;> simp

theorem Ended.boundary {l : Line} (h : Ended l) (t : Text) :
    endsHigh (t ++ (l.content ++ l.terminator)) = false := by
  cases h with
  | both content =>
    show endsHigh (t ++ (content ++ [0x0D, 0x0A])) = false
    rw [← List.append_assoc, endsHigh_append _ _ (List.cons_ne_nil _ _)]
    rfl
  | @single content u hu =>
    show endsHigh (t ++ (content ++ [u])) = false
    rw [← List.append_assoc, endsHigh_append _ _ (List.cons_ne_nil _ _)]
    exact isHigh_terminator hu

end Text

namespace LineSpan

open Text

/-! ### Spans -/

/-- A line that starts within the text, outside every pair, at the byte counted for it. -/
structure Sound (t : Text) (l : LineSpan) : Prop where
  within : l.start ≤ t.length
  outside : insidePair t l.start = false
  bytes : l.byteStart = Utf8.byteLength (t.slice 0 l.start)

theorem sound_of_prefix (a b : Text) (stop : Nat) (h : endsHigh a = false) :
    Sound (a ++ b) ⟨a.length, stop, Utf8.byteLength a⟩ where
  within := by simp
  outside := by simp [insidePair, h]
  bytes := by rw [slice_zero, List.take_left]

/-- Lines laid out after a text that no pair reaches across. -/
theorem layOut_sound {ls : List Line} (h : Broken ls) (before : Text)
    (hbefore : endsHigh before = false) :
    ∀ l ∈ layOut before.length (Utf8.byteLength before) ls, Sound (before ++ joinLines ls) l := by
  induction h generalizing before with
  | last content =>
    intro l hl
    simp only [layOut, List.mem_singleton] at hl
    rw [hl]
    exact sound_of_prefix before _ _ hbefore
  | @cons line rest hline _ ih =>
    intro l hl
    simp only [layOut, List.mem_cons] at hl
    rcases hl with rfl | hl
    · exact sound_of_prefix before _ _ hbefore
    · have hlen : before.length + line.content.length + line.terminator.length =
          (before ++ (line.content ++ line.terminator)).length := by
        simp only [List.length_append]
        omega
      have hbytes : Utf8.byteLength before + Utf8.byteLength (line.content ++ line.terminator) =
          Utf8.byteLength (before ++ (line.content ++ line.terminator)) :=
        (Utf8.byteLength_append_of_boundary hbefore).symm
      rw [hlen, hbytes] at hl
      rw [joinLines_cons, ← List.append_assoc]
      exact ih _ (hline.boundary before) l hl

theorem layOut_start_ge (start byteStart : Nat) (ls : List Line) :
    ∀ l ∈ layOut start byteStart ls, start ≤ l.start := by
  induction ls generalizing start byteStart with
  | nil =>
    intro l hl
    cases hl
  | cons line rest ih =>
    intro l hl
    rcases List.mem_cons.mp hl with rfl | hl
    · exact Nat.le_refl start
    · have := ih _ _ l hl
      omega

theorem layOut_sorted {ls : List Line} (h : Broken ls) (start byteStart : Nat) :
    (layOut start byteStart ls).Pairwise fun a b => a.start < b.start := by
  induction h generalizing start byteStart with
  | last content => exact List.pairwise_singleton _ _
  | @cons line rest hline _ ih =>
    refine List.pairwise_cons.mpr ⟨fun l hl => ?_, ih _ _⟩
    have hge := layOut_start_ge _ _ rest l hl
    have hpos := hline.terminator_pos
    show start < l.start
    omega

/-! ### The table -/

theorem get_of_lt {table : Array LineSpan} {line : Nat} (h : line < table.size) :
    get table line = table[line] := by
  simp [get, Array.getD, h]

/-- Every line of the table is a line of the text. -/
theorem ofText_sound (t : Text) {line : Nat} (h : line < (ofText t).size) :
    Sound t (get (ofText t) line) := by
  have hmem : (ofText t)[line] ∈ layOut 0 0 t.lines := by
    have := Array.getElem_mem h
    simpa only [ofText, List.mem_toArray] using this
  have hsound := layOut_sound (lines_broken t) [] rfl _ hmem
  rw [List.nil_append, joinLines_lines] at hsound
  rw [get_of_lt h]
  exact hsound

/-- Starts increase from line to line. -/
def Sorted (table : Array LineSpan) : Prop :=
  ∀ i j, i < j → j < table.size → (get table i).start < (get table j).start

theorem ofText_sorted (t : Text) : Sorted (ofText t) := by
  intro i j hij hj
  have hsorted := List.pairwise_iff_getElem.mp (layOut_sorted (lines_broken t) 0 0)
  have hsize : (ofText t).size = (layOut 0 0 t.lines).length := by simp [ofText]
  rw [get_of_lt (Nat.lt_trans hij hj), get_of_lt hj]
  simpa [ofText] using hsorted i j (by omega) (by omega) hij

/-- The first line starts the text. -/
theorem ofText_first (t : Text) : 0 < (ofText t).size ∧ (get (ofText t) 0).start = 0 := by
  cases h : t.lines with
  | nil =>
    have := lines_broken t
    rw [h] at this
    cases this
  | cons l rest => simp [ofText, h, layOut, get]

/-! ### The line of an index -/

/-- A search ends at the last of its lines that starts at or before the index. -/
theorem search_spec {table : Array LineSpan} (hsorted : Sorted table) (index : Int) (lo hi : Nat)
    (hle : lo ≤ hi) (hhi : hi < table.size)
    (hlo : lo = 0 ∨ ((get table lo).start : Int) ≤ index)
    (hafter : ∀ j, hi < j → j < table.size → index < (get table j).start) :
    search table index lo hi < table.size ∧
      (search table index lo hi = 0 ∨ ((get table (search table index lo hi)).start : Int) ≤ index) ∧
      ∀ j, search table index lo hi < j → j < table.size → index < (get table j).start := by
  fun_induction search table index lo hi with
  | case1 lo hi hlt mid hmid ih =>
    have hbound : mid = (lo + hi + 1) / 2 := rfl
    exact ih (by omega) hhi (.inr hmid) hafter
  | case2 lo hi hlt mid hmid ih =>
    have hbound : mid = (lo + hi + 1) / 2 := rfl
    refine ih (by omega) (by omega) hlo fun j hj hjs => ?_
    -- The line in the middle starts after the index, and so do all behind it.
    rcases Nat.eq_or_lt_of_le (show mid ≤ j by omega) with rfl | hmj
    · omega
    · have := hsorted mid j hmj hjs
      omega
  | case3 lo hi hlt =>
    have : lo = hi := by omega
    subst this
    exact ⟨hhi, hlo, hafter⟩

/-- **The line of an index** is the last one that starts at or before it. -/
theorem lineOf_spec (t : Text) (index : Int) :
    lineOf (ofText t) index < (ofText t).size ∧
      (0 ≤ index → ((get (ofText t) (lineOf (ofText t) index)).start : Int) ≤ index) ∧
      ∀ j, lineOf (ofText t) index < j → j < (ofText t).size →
        index < (get (ofText t) j).start := by
  obtain ⟨hpos, hfirst⟩ := ofText_first t
  obtain ⟨hlt, hstart, hafter⟩ := search_spec (ofText_sorted t) index 0 ((ofText t).size - 1)
    (Nat.zero_le _) (by omega) (.inl rfl) (fun j hj hjs => by omega)
  refine ⟨hlt, fun h => ?_, hafter⟩
  rcases hstart with hzero | hstart
  · show ((get (ofText t) (search _ _ _ _)).start : Int) ≤ index
    rw [hzero, hfirst]
    exact h
  · exact hstart

end LineSpan

end EcmaModule
