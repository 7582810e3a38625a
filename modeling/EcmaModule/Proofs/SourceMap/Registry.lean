import EcmaModule.Proofs.SourceMap.Cursor
import EcmaModule.SourceMap.Registry
import Mathlib.Data.List.Chain

/-! Where the files of a source map lie.

Files are laid one behind the other: the first one starts at zero, and each starts one
past the end of the file before it (`Laid`). So the ranges of files do not meet, and a
global offset in the range of a file is found in that file (`lookup_inside`).

`registerAll_partition`: whatever is registered, the files share out the global offsets
up to the end of the last one, each offset to one place, and for good. -/
namespace EcmaModule.SourceMap

/-! ### Files in a row -/

/-- Files that lie one behind the other, the first at a global offset. -/
inductive Laid : Nat → List SourceFile → Prop where
  | nil (start : Nat) : Laid start []
  | cons {f : SourceFile} {rest : List SourceFile} (h : Laid (f.endPos + 1) rest) :
    Laid f.startPos (f :: rest)

/-- Where a file goes that is laid behind others, the first of which lies at an offset. -/
def startBehind (start : Nat) (files : List SourceFile) : Nat :=
  (files.getLast?.map fun f => f.endPos + 1).getD start

theorem nextStart_eq (m : SourceMap) : m.nextStart = startBehind 0 m.files := by
  unfold nextStart startBehind
  cases m.files.getLast? <;> rfl

theorem startBehind_cons (start : Nat) (f : SourceFile) (rest : List SourceFile) :
    startBehind start (f :: rest) = startBehind (f.endPos + 1) rest := by
  unfold startBehind
  rw [List.getLast?_cons]
  cases rest.getLast? <;> rfl

theorem Laid.concat {start : Nat} {files : List SourceFile} (h : Laid start files) {f : SourceFile}
    (hf : f.startPos = startBehind start files) : Laid start (files ++ [f]) := by
  induction h with
  | nil start =>
    obtain rfl : f.startPos = start := hf
    exact .cons (.nil _)
  | cons _ ih =>
    rw [startBehind_cons] at hf
    exact .cons (ih hf)

/-- No file starts before the first. -/
theorem Laid.start_le {start : Nat} {files : List SourceFile} (h : Laid start files) {i : Nat}
    {f : SourceFile} (hf : files[i]? = some f) : start ≤ f.startPos := by
  induction h generalizing i with
  | nil => cases hf
  | @cons g rest _ ih =>
    cases i with
    | zero =>
      obtain rfl : g = f := Option.some.inj hf
      exact Nat.le_refl _
    | succ j =>
      have hbehind : g.endPos + 1 ≤ f.startPos := ih hf
      unfold SourceFile.endPos at hbehind
      omega

theorem Laid.lookupFrom_inside {start : Nat} {files : List SourceFile} (h : Laid start files) (n : Nat)
    {i : Nat} {f : SourceFile} (hf : files[i]? = some f) {pos : Int}
    (hpos : (f.startPos : Int) ≤ pos ∧ pos ≤ f.endPos) :
    lookupFrom pos n files = some ⟨n + i, pos - f.startPos⟩ := by
  induction h generalizing n i with
  | nil => cases hf
  | @cons g rest hrest ih =>
    cases i with
    | zero =>
      obtain rfl : g = f := Option.some.inj hf
      exact if_pos hpos
    | succ j =>
      have hbehind : g.endPos + 1 ≤ f.startPos := hrest.start_le hf
      have houtside : ¬ ((g.startPos : Int) ≤ pos ∧ pos ≤ g.endPos) := by omega
      rw [lookupFrom, if_neg houtside, ih (n + 1) hf, Nat.add_right_comm]
      rfl

/-! ### Looking up -/

/-- **A global offset in the range of a file is found there.** -/
theorem lookup_inside {m : SourceMap} (h : Laid 0 m.files) {i : Nat} {f : SourceFile}
    (hf : m.files[i]? = some f) {offset : Nat} (hoffset : offset ≤ f.byteLength) :
    m.lookup (f.startPos + offset) = some ⟨i, offset⟩ := by
  have hrange : (f.startPos : Int) ≤ f.startPos + offset ∧ (f.startPos : Int) + offset ≤ f.endPos := by
    unfold SourceFile.endPos
    omega
  have hfound := h.lookupFrom_inside 0 hf hrange
  have hback : (f.startPos : Int) + offset - f.startPos = offset := by omega
  rwa [Nat.zero_add, hback] at hfound

/-- What is found is the range of a file that holds the offset, whichever way files lie. -/
theorem lookupFrom_sound {pos : Int} {n : Nat} {files : List SourceFile} {p : SourceLookup}
    (h : lookupFrom pos n files = some p) :
    ∃ i f, files[i]? = some f ∧ p = ⟨n + i, pos - f.startPos⟩ ∧
      (f.startPos : Int) ≤ pos ∧ pos ≤ f.endPos := by
  induction files generalizing n with
  | nil => cases h
  | cons g rest ih =>
    rw [lookupFrom] at h
    split at h
    · next hrange => exact ⟨0, g, rfl, (Option.some.inj h).symm, hrange⟩
    · obtain ⟨i, f, hf, rfl, hrange⟩ := ih h
      exact ⟨i + 1, f, hf, by rw [Nat.add_right_comm, Nat.add_assoc], hrange⟩

/-- The place has the global offset: it lies in the file of its number, the end of the file
included. -/
def Holds (m : SourceMap) (pos : Int) (p : SourceLookup) : Prop :=
  ∃ f, m.files[p.file]? = some f ∧ f.startPos + p.offset = pos ∧ 0 ≤ p.offset ∧ p.offset ≤ f.byteLength

/-- **A lookup finds the place of a global offset**, and that one only. -/
theorem lookup_eq_some_iff {m : SourceMap} (h : Laid 0 m.files) {pos : Int} {p : SourceLookup} :
    m.lookup pos = some p ↔ m.Holds pos p := by
  constructor
  · intro hfound
    obtain ⟨i, f, hf, rfl, hrange⟩ := lookupFrom_sound hfound
    rw [SourceFile.endPos] at hrange
    refine ⟨f, by rwa [Nat.zero_add], ?_, ?_, ?_⟩
    · show (f.startPos : Int) + (pos - f.startPos) = pos
      omega
    · show 0 ≤ pos - f.startPos
      omega
    · show pos - f.startPos ≤ f.byteLength
      omega
  · rintro ⟨f, hf, rfl, hlo, hhi⟩
    obtain ⟨number, offset⟩ := p
    obtain ⟨n, rfl⟩ := Int.eq_ofNat_of_zero_le hlo
    exact lookup_inside h hf (Int.ofNat_le.mp hhi)

/-! ### Ranges -/

theorem laid_cons_iff {start : Nat} {f : SourceFile} {rest : List SourceFile} :
    Laid start (f :: rest) ↔ f.startPos = start ∧ Laid (f.endPos + 1) rest := by
  constructor
  · intro h
    cases h with
    | cons hrest => exact ⟨rfl, hrest⟩
  · rintro ⟨rfl, hrest⟩
    exact .cons hrest

section Ranges
variable {start : Nat} {files : List SourceFile}

/-- Each file starts one past the end of the one before it. -/
theorem Laid.consecutive (h : Laid start files) : files.IsChain fun f g => g.startPos = f.endPos + 1 := by
  induction h with
  | nil => exact .nil
  | @cons f rest hrest ih =>
    cases rest with
    | nil => exact .singleton f
    | cons g more => exact List.isChain_cons_cons.mpr ⟨(laid_cons_iff.mp hrest).1, ih⟩

/-- Ranges do not meet, and lie in the order of the files. -/
theorem Laid.disjoint (h : Laid start files) : files.Pairwise fun f g => f.endPos < g.startPos := by
  induction h with
  | nil => exact .nil
  | cons hrest ih =>
    refine List.pairwise_cons.mpr ⟨fun g hg => ?_, ih⟩
    obtain ⟨i, hi⟩ := List.mem_iff_getElem?.mp hg
    exact hrest.start_le hi

/-- No file ends behind the last. -/
theorem Laid.end_le (h : Laid start files) {f last : SourceFile} (hf : f ∈ files)
    (hlast : files.getLast? = some last) : f.endPos ≤ last.endPos := by
  obtain ⟨before, rfl⟩ := List.getLast?_eq_some_iff.mp hlast
  rcases List.mem_append.mp hf with hf | hf
  · have hbehind := (List.pairwise_append.mp h.disjoint).2.2 f hf last (List.mem_singleton_self last)
    exact Nat.le_of_lt (Nat.lt_of_lt_of_le hbehind (Nat.le_add_right _ _))
  · obtain rfl := List.mem_singleton.mp hf
    exact Nat.le_refl _

/-- Up to the end of the last file no offset is left out. -/
theorem Laid.covers (h : Laid start files) {last : SourceFile} (hlast : files.getLast? = some last)
    {pos : Int} (hlo : start ≤ pos) (hhi : pos ≤ last.endPos) :
    ∃ f ∈ files, (f.startPos : Int) ≤ pos ∧ pos ≤ f.endPos := by
  induction h with
  | nil => cases hlast
  | @cons f rest _ ih =>
    by_cases hend : pos ≤ f.endPos
    · exact ⟨f, List.mem_cons_self, hlo, hend⟩
    · rw [List.getLast?_cons] at hlast
      cases hbehind : rest.getLast? with
      | none =>
        rw [hbehind] at hlast
        obtain rfl : f = last := Option.some.inj hlast
        exact absurd hhi hend
      | some g =>
        rw [hbehind] at hlast
        obtain rfl : g = last := Option.some.inj hlast
        obtain ⟨k, hk, hrange⟩ := ih hbehind (by omega)
        exact ⟨k, List.mem_cons_of_mem f hk, hrange⟩

end Ranges

/-- An offset is found exactly if it lies between zero and the end of the last file. -/
theorem lookup_defined_iff {m : SourceMap} (h : Laid 0 m.files) {pos : Int} :
    (∃ p, m.lookup pos = some p) ↔
      ∃ last, m.files.getLast? = some last ∧ 0 ≤ pos ∧ pos ≤ last.endPos := by
  constructor
  · rintro ⟨p, hfound⟩
    obtain ⟨i, f, hf, -, hlo, hhi⟩ := lookupFrom_sound hfound
    have hmem := List.mem_of_getElem? hf
    have hlast := List.getLast?_eq_some_getLast (List.ne_nil_of_mem hmem)
    have hend := h.end_le hmem hlast
    exact ⟨_, hlast, by omega, by omega⟩
  · rintro ⟨last, hlast, hlo, hhi⟩
    obtain ⟨f, hf, hrange⟩ := h.covers hlast hlo hhi
    obtain ⟨i, hi⟩ := List.mem_iff_getElem?.mp hf
    exact ⟨_, h.lookupFrom_inside 0 hi hrange⟩

/-! ### Registering -/

/-- A map with files of some names and sources registered, one after the other. -/
def registerAll (m : SourceMap) (entries : List (Text × Text)) : SourceMap :=
  entries.foldl (fun m e => m.newFile e.1 e.2) m

theorem newFile_laid {m : SourceMap} (h : Laid 0 m.files) (name source : Text) :
    Laid 0 (m.newFile name source).files := h.concat (nextStart_eq m)

theorem registerAll_laid {m : SourceMap} (h : Laid 0 m.files) (entries : List (Text × Text)) :
    Laid 0 (m.registerAll entries).files := by
  induction entries generalizing m with
  | nil => exact h
  | cons e rest ih => exact ih (newFile_laid h e.1 e.2)

/-- Registering puts one file for each entry behind those that were there. -/
theorem registerAll_files (m : SourceMap) (entries : List (Text × Text)) :
    ∃ more, (m.registerAll entries).files = m.files ++ more ∧
      more.map (fun f => (f.name, f.source)) = entries := by
  induction entries generalizing m with
  | nil => exact ⟨[], (List.append_nil _).symm, rfl⟩
  | cons e rest ih =>
    obtain ⟨more, hfiles, hmore⟩ := ih (m.newFile e.1 e.2)
    refine ⟨.create e.1 e.2 m.nextStart :: more, hfiles.trans ?_, congrArg (e :: ·) hmore⟩
    rw [newFile, List.append_assoc]
    rfl

/-- A place stays where it is when files are registered. -/
theorem Holds.registerAll {m : SourceMap} {pos : Int} {p : SourceLookup} (h : m.Holds pos p)
    (entries : List (Text × Text)) : (m.registerAll entries).Holds pos p := by
  obtain ⟨f, hf, hplace⟩ := h
  obtain ⟨more, hfiles, -⟩ := registerAll_files m entries
  refine ⟨f, ?_, hplace⟩
  rw [hfiles, List.getElem?_append_left (List.getElem?_eq_some_iff.mp hf).1]
  exact hf

/-- **Files share out the global offsets.** Registered one after the other, the first file
starts at zero and each other one position past the end of the file before it; the end of a
file lies behind its start by the bytes of its source. So ranges lie apart and in order. An
offset is found exactly if it is not negative and not behind the end of the last file. What
is found is the one place that has the offset, and every place is found at its offset; and
no file that is registered later changes what is found. -/
theorem registerAll_partition (entries : List (Text × Text)) (pos : Int) :
    let m := registerAll {} entries
    m.files.map (fun f => (f.name, f.source)) = entries ∧
      (∀ f ∈ m.files.head?, f.startPos = 0) ∧
      m.files.IsChain (fun f g => g.startPos = f.endPos + 1) ∧
      (∀ f ∈ m.files, f.endPos = f.startPos + Utf8.byteLength f.source) ∧
      m.files.Pairwise (fun f g => f.endPos < g.startPos) ∧
      ((∃ p, m.lookup pos = some p) ↔
        ∃ last, m.files.getLast? = some last ∧ 0 ≤ pos ∧ pos ≤ last.endPos) ∧
      (∀ p, m.lookup pos = some p ↔ m.Holds pos p) ∧
      (∀ p q, m.Holds pos p → m.Holds pos q → p = q) ∧
      ∀ more p, m.lookup pos = some p → (m.registerAll more).lookup pos = some p := by
  intro m
  have hlaid : Laid 0 m.files := registerAll_laid (.nil 0) entries
  have hends (f : SourceFile) : f.endPos = f.startPos + Utf8.byteLength f.source := by
    rw [SourceFile.endPos, SourceFile.byteLength_eq]
  refine ⟨?_, fun f hf => ?_, hlaid.consecutive, fun f _ => hends f, hlaid.disjoint,
    lookup_defined_iff hlaid, fun p => lookup_eq_some_iff hlaid, fun p q hp hq => ?_,
    fun more p hfound => ?_⟩
  · obtain ⟨files, hfiles, hentries⟩ := registerAll_files {} entries
    rw [show m.files = files from hfiles]
    exact hentries
  · obtain ⟨rest, hfiles⟩ := List.head?_eq_some_iff.mp hf
    rw [hfiles] at hlaid
    exact (laid_cons_iff.mp hlaid).1
  · have hfound := (lookup_eq_some_iff hlaid).mpr hp
    rw [(lookup_eq_some_iff hlaid).mpr hq] at hfound
    exact (Option.some.inj hfound).symm
  · have hplace := (lookup_eq_some_iff hlaid).mp hfound
    exact (lookup_eq_some_iff (registerAll_laid hlaid more)).mpr (hplace.registerAll more)

/-- Behind a file without text, the offset that lies between two files is the start of the
second, and remains so. -/
theorem emptyFile_partition :
    let m := registerAll {} [("empty.js", []), ("b.js", [0xE9])]
    [-1, 0, 1, 3, 4].map m.lookup = [none, some ⟨0, 0⟩, some ⟨1, 0⟩, some ⟨1, 2⟩, none] ∧
      ∀ more, (m.registerAll more).lookup 1 = some ⟨1, 0⟩ := by
  intro m
  obtain ⟨-, -, -, -, -, -, -, -, hstays⟩ := registerAll_partition [("empty.js", []), ("b.js", [0xE9])] 1
  have hfound : m.lookup 1 = some ⟨1, 0⟩ := by decide +kernel
  exact ⟨by decide +kernel, fun more => hstays more _ hfound⟩

end EcmaModule.SourceMap
