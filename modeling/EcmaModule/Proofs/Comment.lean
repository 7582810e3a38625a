import EcmaModule.Comment
import Mathlib.Algebra.BigOperators.Group.Finset.Basic

/-! Comments of one file.

All files share one store, but whether a comment is kept is decided by the comments of
its own file alone: the first one read at a start is kept, and later ones at that start
are dropped (`ofFile_addAll`). Every comment of the store is one of its file (`size_eq_sum`). -/
namespace EcmaModule.CommentStore

/-- A comment goes to the end of those kept, unless one of them has its start. -/
def keep (kept : List Comment) (c : Comment) : List Comment :=
  if kept.any fun k => k.span.lo == c.span.lo then kept else kept ++ [c]

theorem holds_eq (s : CommentStore) (file : Option Nat) (lo : Int) :
    s.holds file lo = (s.ofFile file).any fun k => k.span.lo == lo := by
  simp only [holds, ofFile, List.any_map, List.any_filter, Function.comp_def]

theorem ofFile_add (s : CommentStore) (file : Option Nat) (c : Comment) :
    (s.add file c).ofFile file = keep (s.ofFile file) c := by
  rw [add, keep, ← holds_eq]
  cases s.holds file c.span.lo with
  | true => rfl
  | false => simp [ofFile]

/-- **What is kept of a file**: comment after comment, the first one at each start. -/
theorem ofFile_addAll (s : CommentStore) (file : Option Nat) (cs : List Comment) :
    (cs.foldl (fun s c => s.add file c) s).ofFile file = cs.foldl keep (s.ofFile file) := by
  induction cs generalizing s with
  | nil => rfl
  | cons c rest ih => rw [List.foldl_cons, List.foldl_cons, ih, ofFile_add]

theorem ofFile_add_other (s : CommentStore) {file other : Option Nat} (h : file ≠ other) (c : Comment) :
    (s.add file c).ofFile other = s.ofFile other := by
  rw [add]
  cases s.holds file c.span.lo with
  | true => rfl
  | false => simp [ofFile, h]

/-- Comments of one file leave those of another alone. -/
theorem ofFile_addAll_other (s : CommentStore) {file other : Option Nat} (h : file ≠ other)
    (cs : List Comment) :
    (cs.foldl (fun s c => s.add file c) s).ofFile other = s.ofFile other := by
  induction cs generalizing s with
  | nil => rfl
  | cons c rest ih => rw [List.foldl_cons, ih, ofFile_add_other s h]

theorem mem_add {s : CommentStore} {file : Option Nat} {c : Comment} {e : Option Nat × Comment}
    (h : e ∈ (s.add file c).entries) : e ∈ s.entries ∨ e = (file, c) := by
  unfold add at h
  split at h
  · exact .inl h
  · exact (List.mem_append.mp h).imp_right List.mem_singleton.mp

theorem mem_addAll {s : CommentStore} {file : Option Nat} {cs : List Comment} {e : Option Nat × Comment}
    (h : e ∈ (cs.foldl (fun s c => s.add file c) s).entries) : e ∈ s.entries ∨ e.1 = file := by
  induction cs generalizing s with
  | nil => exact .inl h
  | cons c rest ih =>
    rcases ih h with hadd | hfile
    · exact (mem_add hadd).imp_right fun hnew => by rw [hnew]
    · exact .inr hfile

theorem mem_keep {kept : List Comment} {c k : Comment} (h : k ∈ keep kept c) : k ∈ kept ∨ k = c := by
  unfold keep at h
  split at h
  · exact .inl h
  · exact (List.mem_append.mp h).imp_right List.mem_singleton.mp

theorem mem_keepAll {kept cs : List Comment} {k : Comment} (h : k ∈ cs.foldl keep kept) :
    k ∈ kept ∨ k ∈ cs := by
  induction cs generalizing kept with
  | nil => exact .inl h
  | cons c rest ih =>
    rcases ih h with hkeep | hrest
    · refine (mem_keep hkeep).imp_right fun hnew => ?_
      rw [hnew]
      exact List.mem_cons_self
    · exact .inr (List.mem_cons_of_mem c hrest)

/-- A file without entries has no comments. -/
theorem ofFile_of_absent {s : CommentStore} {file : Option Nat}
    (h : ∀ e ∈ s.entries, e.1 ≠ file) : s.ofFile file = [] := by
  have hnone : (s.entries.filter fun e => e.1 == file) = [] :=
    List.filter_eq_nil_iff.mpr fun e he heq => h e he (eq_of_beq heq)
  rw [ofFile, hnone, List.map_nil]

/-! ### All files -/

/-- The files that have comments. -/
def files (s : CommentStore) : Finset (Option Nat) := (s.entries.map Prod.fst).toFinset

/-- **Every comment is one of its file**, and counts once. -/
theorem size_eq_sum (s : CommentStore) : s.size = ∑ file ∈ s.files, (s.ofFile file).length := by
  let keys : Multiset (Option Nat) := s.entries.map Prod.fst
  have hcount (file : Option Nat) : (s.ofFile file).length = keys.count file := by
    rw [ofFile, List.length_map, ← List.countP_eq_length_filter, Multiset.count, Multiset.coe_countP,
      List.countP_map]
    refine List.countP_congr fun e _ => ?_
    rw [beq_iff_eq, Function.comp_apply, decide_eq_true_iff, eq_comm]
  calc s.size = Multiset.card keys := (List.length_map _).symm
    _ = ∑ file ∈ keys.toFinset, keys.count file := (Multiset.toFinset_sum_count_eq keys).symm
    _ = ∑ file ∈ s.files, (s.ofFile file).length := Finset.sum_congr rfl fun file _ => (hcount file).symm

end EcmaModule.CommentStore
