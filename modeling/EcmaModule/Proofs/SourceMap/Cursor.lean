import EcmaModule.Proofs.SourceMap.LineTable
import EcmaModule.SourceMap.File
import Mathlib.Data.Finset.Card

/-! The cursor of a file.

Resolving a byte offset leaves a cursor behind, and the next offset may be counted
from it. `byteOffset_after` says what that can change, whatever was asked before: an
offset is the byte length of the text up to the index, and two bytes more for some of
the surrogate pairs before the index that an earlier index split. -/
namespace EcmaModule.SourceFile

/-! ### What was asked -/

/-- The file after the offsets of some indices have been resolved, the first one first. -/
def resolveAll (f : SourceFile) (asked : List Int) : SourceFile := asked.foldl resolve f

/-- The indices among those asked that split a pair on the line of an index, before it. -/
def splitBefore (f : SourceFile) (asked : List Int) (index : Int) : Finset Int :=
  asked.toFinset.filter fun m =>
    f.source.insidePair m.toNat ∧ f.lineOf m = f.lineOf index ∧ m < index

theorem mem_splitBefore {f : SourceFile} {asked : List Int} {index m : Int} :
    m ∈ f.splitBefore asked index ↔
      m ∈ asked ∧ f.source.insidePair m.toNat ∧ f.lineOf m = f.lineOf index ∧ m < index := by
  simp [splitBefore]

theorem splitBefore_subset {f : SourceFile} {asked more : List Int} {a b : Int}
    (hasked : asked ⊆ more) (hline : f.lineOf a = f.lineOf b) (hab : a ≤ b) :
    f.splitBefore asked a ⊆ f.splitBefore more b := by
  intro m hm
  obtain ⟨hmem, hpair, hmline, hlt⟩ := mem_splitBefore.mp hm
  exact mem_splitBefore.mpr ⟨hasked hmem, hpair, hmline.trans hline, by omega⟩

/-! ### Lines of a file -/

theorem lineSpan_sound (f : SourceFile) {line : Nat} (h : line < f.lineCount) :
    LineSpan.Sound f.source (f.lineSpan line) := by
  have hsize : line < (LineSpan.ofText f.source).size := by rw [← f.table_eq]; exact h
  show LineSpan.Sound f.source (LineSpan.get f.table line)
  rw [f.table_eq]
  exact LineSpan.ofText_sound f.source hsize

theorem lineOf_lt (f : SourceFile) (index : Int) : f.lineOf index < f.lineCount := by
  show LineSpan.lineOf f.table index < f.table.size
  rw [f.table_eq]
  exact (LineSpan.lineOf_spec f.source index).1

/-- The line of an index does not start after it. -/
theorem lineSpan_start_le (f : SourceFile) {index : Int} (h : 0 ≤ index) :
    ((f.lineSpan (f.lineOf index)).start : Int) ≤ index := by
  show ((LineSpan.get f.table (LineSpan.lineOf f.table index)).start : Int) ≤ index
  rw [f.table_eq]
  exact (LineSpan.lineOf_spec f.source index).2.1 h

/-- The bytes counted line by line are the bytes of the source. -/
theorem byteLength_eq (f : SourceFile) : f.byteLength = Utf8.byteLength f.source := by
  have hlast : f.lineCount - 1 < f.lineCount := Nat.sub_one_lt_of_lt (f.lineOf_lt 0)
  obtain ⟨_, houtside, hbytes⟩ := f.lineSpan_sound hlast
  simp only [byteLength, hbytes]
  rw [Text.slice_zero]
  have := Utf8.byteLength_append (f.source.take (f.lineSpan (f.lineCount - 1)).start)
    (f.source.drop (f.lineSpan (f.lineCount - 1)).start)
  rw [List.take_append_drop] at this
  unfold Text.insidePair at houtside
  simpa [houtside] using this.symm

/-! ### The invariant of the cursor -/

/-- A cursor that can be used stands at an index that was asked, on its line, and counts
two bytes too many for each pair split before it. -/
def Tracked (f : SourceFile) (asked : List Int) : Prop :=
  ((f.lineSpan f.cursor.line).start : Int) < f.cursor.index →
    f.cursor.index ∈ asked ∧ f.cursor.line = f.lineOf f.cursor.index ∧
      ∃ k ≤ (f.splitBefore asked f.cursor.index).card,
        f.cursor.byte = Utf8.byteLength (f.source.slice 0 f.cursor.index) + 2 * k

theorem create_tracked (name source : Text) (startPos : Nat) :
    Tracked (create name source startPos) [] := by
  intro h
  have : ((create name source startPos).cursor.index) = 0 := rfl
  omega

/-- Counting on from an index that was asked splits at most one pair more. -/
theorem splitBefore_step {f : SourceFile} {asked : List Int} {a b : Int} {k : Nat}
    (hmem : a ∈ asked) (hline : f.lineOf a = f.lineOf b) (hab : a ≤ b)
    (hk : k ≤ (f.splitBefore asked a).card) :
    k + f.source.splitCount a b ≤ (f.splitBefore asked b).card := by
  have hsub : f.splitBefore asked a ⊆ f.splitBefore asked b :=
    splitBefore_subset (List.Subset.refl asked) hline hab
  unfold Text.splitCount
  by_cases hsplit : (f.source.insidePair a.toNat && decide (a < b)) = true
  · rw [if_pos hsplit]
    obtain ⟨hpair, hlt⟩ := Bool.and_eq_true_iff.mp hsplit
    have hnew : a ∉ f.splitBefore asked a := fun h => by
      have := (mem_splitBefore.mp h).2.2.2
      omega
    have hin : a ∈ f.splitBefore asked b :=
      mem_splitBefore.mpr ⟨hmem, hpair, hline, of_decide_eq_true hlt⟩
    have := Finset.card_le_card (Finset.insert_subset hin hsub)
    rw [Finset.card_insert_of_notMem hnew] at this
    omega
  · rw [if_neg hsplit]
    exact hk.trans (Finset.card_le_card hsub)

/-- What a file answers while its cursor is tracked. -/
theorem byteOffset_tracked {f : SourceFile} {asked : List Int} (h : Tracked f asked) {index : Int}
    (hindex : 0 ≤ index) :
    ∃ k ≤ (f.splitBefore asked index).card,
      f.byteOffset index = Utf8.byteLength (f.source.slice 0 index) + 2 * k := by
  by_cases huse : f.cursor.line = f.lineOf index ∧
      ((f.lineSpan (f.lineOf index)).start : Int) < f.cursor.index ∧ f.cursor.index ≤ index
  · obtain ⟨hline, hstart, hle⟩ := huse
    obtain ⟨hmem, hcursor, k, hk, hbyte⟩ := h (by rw [hline]; exact hstart)
    have hslice := Utf8.byteLength_slice f.source (show 0 ≤ f.cursor.index by omega) hle
    refine ⟨_, splitBefore_step hmem (hcursor.symm.trans hline) hle hk, ?_⟩
    simp only [byteOffset, anchor, hline, hstart, hle, and_self, if_true, hbyte]
    omega
  · -- Counting from the start of the line, which is never inside a pair.
    obtain ⟨_, houtside, hbytes⟩ := f.lineSpan_sound (f.lineOf_lt index)
    have hslice := Utf8.byteLength_slice f.source (Int.natCast_nonneg _) (f.lineSpan_start_le hindex)
    have hnone : f.source.splitCount (f.lineSpan (f.lineOf index)).start index = 0 := by
      simp [Text.splitCount, houtside]
    refine ⟨0, Nat.zero_le _, ?_⟩
    simp only [byteOffset, anchor, if_neg huse, hbytes]
    omega

/-- Where no pair was split, an offset is the byte length of the text up to the index. -/
theorem byteOffset_outside {f : SourceFile} {asked : List Int} (h : Tracked f asked)
    (houtside : ∀ m ∈ asked, f.source.insidePair m.toNat = false) {index : Int} (hindex : 0 ≤ index) :
    f.byteOffset index = Utf8.byteLength (f.source.slice 0 index) := by
  obtain ⟨k, hk, hbyte⟩ := byteOffset_tracked h hindex
  have hempty : f.splitBefore asked index = ∅ :=
    Finset.filter_false_of_mem fun m hm hsplit => by
      rw [houtside m (List.mem_toFinset.mp hm)] at hsplit
      exact absurd hsplit.1 (by decide)
  rw [hempty, Finset.card_empty] at hk
  omega

theorem resolve_tracked {f : SourceFile} {asked : List Int} (h : Tracked f asked) (index : Int) :
    Tracked (f.resolve index) (asked ++ [index]) := by
  intro hstart
  have hindex : 0 ≤ index := by
    have : ((f.lineSpan (f.lineOf index)).start : Int) < index := hstart
    omega
  obtain ⟨k, hk, hbyte⟩ := byteOffset_tracked h hindex
  have hsub : f.splitBefore asked index ⊆ f.splitBefore (asked ++ [index]) index :=
    splitBefore_subset (List.subset_append_left asked [index]) rfl (Int.le_refl index)
  exact ⟨by simp [resolve], rfl, k, hk.trans (Finset.card_le_card hsub), hbyte⟩

theorem resolveAll_tracked (f : SourceFile) (before asked : List Int) (h : Tracked f before) :
    Tracked (f.resolveAll asked) (before ++ asked) := by
  induction asked generalizing f before with
  | nil => rw [List.append_nil]; exact h
  | cons index rest ih =>
    have := ih (f.resolve index) (before ++ [index]) (resolve_tracked h index)
    rwa [List.append_assoc, List.singleton_append] at this

/-- Resolving changes the cursor only. -/
theorem resolveAll_eq (f : SourceFile) (asked : List Int) :
    ∃ cursor, f.resolveAll asked = {f with cursor := cursor} := by
  induction asked generalizing f with
  | nil => exact ⟨f.cursor, rfl⟩
  | cons index rest ih =>
    obtain ⟨cursor, h⟩ := ih (f.resolve index)
    exact ⟨cursor, h⟩

section Unmoved
variable (f : SourceFile) (asked : List Int)

theorem resolveAll_name : (f.resolveAll asked).name = f.name := by
  obtain ⟨cursor, h⟩ := f.resolveAll_eq asked
  rw [h]

theorem resolveAll_source : (f.resolveAll asked).source = f.source := by
  obtain ⟨cursor, h⟩ := f.resolveAll_eq asked
  rw [h]

theorem resolveAll_position (index : Int) :
    (f.resolveAll asked).position index = f.position index := by
  obtain ⟨cursor, h⟩ := f.resolveAll_eq asked
  rw [h]
  rfl

end Unmoved

/-- **Byte offsets, whatever was asked before.** The offset of an index is the byte length
of the text up to it, and twice a number of bytes more that is at most the number of
pairs before the index, on its line, that were split by an earlier index. Without such a
split it is the byte length itself; and the length of the file is that of its text. -/
theorem byteOffset_after (name source : Text) (startPos : Nat) (asked : List Int) (index : Nat) :
    let f := (create name source startPos).resolveAll asked
    (∃ k ≤ (f.splitBefore asked index).card,
        f.byteOffset index = Utf8.byteLength (source.slice 0 index) + 2 * k) ∧
      ((∀ m ∈ asked, source.insidePair m.toNat = false) →
        f.byteOffset index = Utf8.byteLength (source.slice 0 index)) ∧
      f.byteLength = Utf8.byteLength source := by
  intro f
  have htracked : Tracked f asked := resolveAll_tracked _ [] asked (create_tracked name source startPos)
  have hsource : f.source = source := by
    obtain ⟨cursor, h⟩ := resolveAll_eq (create name source startPos) asked
    show (resolveAll _ asked).source = source
    rw [h]
    rfl
  obtain ⟨k, hk, hbyte⟩ := byteOffset_tracked htracked (Int.natCast_nonneg index)
  rw [hsource] at hbyte
  refine ⟨⟨k, hk, hbyte⟩, fun hnone => ?_, by rw [byteLength_eq, hsource]⟩
  have hempty : f.splitBefore asked index = ∅ := by
    apply Finset.eq_empty_of_forall_notMem
    intro m hm
    obtain ⟨hmem, hpair, _⟩ := mem_splitBefore.mp hm
    rw [hsource, hnone m hmem] at hpair
    exact absurd hpair (by decide)
  rw [hempty, Finset.card_empty, Nat.le_zero] at hk
  rw [hbyte, hk, Nat.mul_zero, Nat.add_zero]

/-- An index between two halves adds two bytes to a later answer. -/
example : ((create [] [0xD834, 0xDD1E, 0x61] 0).resolveAll [1]).byteOffset 2 = 6 := by
  decide +kernel

end EcmaModule.SourceFile
