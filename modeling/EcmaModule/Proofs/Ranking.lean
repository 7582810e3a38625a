import Mathlib.Data.List.Sigma
import Mathlib.Data.Set.Finite.Lemmas
import Mathlib.Order.Bounds.Basic

/-! Lists in order.

A stable sort leaves what compares equal in the order it came in (`mergeSort_stable`). Where
elements have ascending ranks, taking each name once, at its first place, orders the names by
their least ranks (`pair_sublist_eraseDups_iff`), and so by where they are first met
(`eraseDups_filterMap`). -/
namespace EcmaModule

open List

/-! ### Stable sorting -/

/-- **Ties are left in the order they came in.** -/
theorem mergeSort_stable {α : Type} {le : α → α → Bool}
    (trans : ∀ a b c, le a b = true → le b c = true → le a c = true)
    (total : ∀ a b, (le a b || le b a) = true) {before : α → α → Prop} {xs : List α}
    (h : xs.Pairwise before) :
    (xs.mergeSort le).Pairwise fun a b => le a b = true ∧ (le b a = true → before a b) := by
  have hsorted := pairwise_mergeSort (zipIdxLE_trans trans) (zipIdxLE_total total) xs.zipIdx
  have hindices : ((xs.zipIdx.mergeSort (zipIdxLE le)).map Prod.snd).Nodup :=
    ((mergeSort_perm _ _).map _).nodup_iff.mpr (nodup_zipIdx_map_snd xs)
  rw [← mergeSort_zipIdx, pairwise_map]
  refine (hsorted.and (pairwise_map.mp hindices)).imp_of_mem ?_
  rintro ⟨a, i⟩ ⟨b, j⟩ ha hb ⟨hle, hne⟩
  obtain ⟨hab, hindex⟩ : le a b = true ∧ (le b a = true → i ≤ j) := by
    unfold zipIdxLE at hle
    grind
  refine ⟨hab, fun hba => ?_⟩
  obtain ⟨hi, rfl⟩ := List.getElem?_eq_some_iff.mp (mk_mem_zipIdx_iff_getElem?.mp (mem_mergeSort.mp ha))
  obtain ⟨hj, rfl⟩ := List.getElem?_eq_some_iff.mp (mk_mem_zipIdx_iff_getElem?.mp (mem_mergeSort.mp hb))
  exact pairwise_iff_getElem.mp h i j hi hj (Nat.lt_of_le_of_ne (hindex hba) hne)

/-! ### First places -/

theorem zipIdx_ascending {α : Type} (xs : List α) : xs.zipIdx.Pairwise fun p q => p.2 < q.2 := by
  refine pairwise_map.mp ?_
  rw [zipIdx_map_snd]
  exact pairwise_lt_range'

section Firsts
variable {α : Type}

/-- Of two elements of a list, one stands behind the other. -/
theorem pair_sublist_or {xs : List α} {a b : α} (ha : a ∈ xs) (hb : b ∈ xs) (hne : a ≠ b) :
    [a, b] <+ xs ∨ [b, a] <+ xs := by
  obtain ⟨before, behind, rfl⟩ := append_of_mem ha
  rcases mem_append.mp hb with hb | hb
  · exact .inr ((singleton_sublist.mpr hb).append (singleton_sublist.mpr mem_cons_self))
  · have hb := (mem_cons.mp hb).resolve_left hne.symm
    exact .inl ((Sublist.cons_cons a (singleton_sublist.mpr hb)).trans (sublist_append_right ..))

variable {κ : Type} [LinearOrder κ] {ranked : List (κ × α)}

theorem exists_isLeast_rank {a : α} (h : a ∈ ranked.map Prod.snd) :
    ∃ r, IsLeast {r | (r, a) ∈ ranked} r := by
  obtain ⟨p, hp, rfl⟩ := mem_map.mp h
  have hfinite : {q | q ∈ ranked ∧ q.2 = p.2}.Finite := ranked.finite_toSet.subset fun q hq => hq.1
  obtain ⟨q, ⟨hq, hname⟩, hleast⟩ := Set.exists_min_image _ Prod.fst hfinite ⟨p, hp, rfl⟩
  exact ⟨q.1, by rwa [← hname], fun r hr => hleast (r, p.2) ⟨hr, rfl⟩⟩

variable [BEq α] [LawfulBEq α]

/-- What comes last is kept if it is new. -/
theorem eraseDups_concat (xs : List α) (x : α) :
    (xs ++ [x]).eraseDups = if xs.contains x then xs.eraseDups else xs.eraseDups ++ [x] := by
  rw [eraseDups_append]
  by_cases h : x ∈ xs <;> simp [removeAll, h, eraseDups_cons]

theorem nodup_eraseDups (xs : List α) : xs.eraseDups.Nodup := by
  induction xs using reverseRecOn with
  | nil => exact nodup_nil
  | append_singleton xs x ih =>
    rw [eraseDups_concat]
    split
    · exact ih
    · next hnew =>
      have hnew : x ∉ xs.eraseDups := fun hmem => hnew (contains_iff_mem.mpr (mem_eraseDups.mp hmem))
      exact nodup_append.mpr ⟨ih, nodup_singleton x, fun a ha b hb hab =>
        hnew (mem_singleton.mp hb ▸ hab ▸ ha)⟩

/-- A name stands before the names that it has a rank in front of. -/
theorem eraseDups_ranked (h : ranked.Pairwise fun p q => p.1 < q.1) :
    (ranked.map Prod.snd).eraseDups.Pairwise fun a b =>
      ∃ r, (r, a) ∈ ranked ∧ ∀ q, (q, b) ∈ ranked → r < q := by
  induction ranked using reverseRecOn with
  | nil => exact .nil
  | append_singleton ranked p ih =>
    obtain ⟨hfront, -, hlast⟩ := pairwise_append.mp h
    have hbelow : ∀ q ∈ ranked, q.1 < p.1 := fun q hq => hlast q hq p (mem_singleton.mpr rfl)
    -- The last element comes with a rank above all others, so names keep what they have.
    have hkept {a b : α} (hab : ∃ r, (r, a) ∈ ranked ∧ ∀ q, (q, b) ∈ ranked → r < q) :
        ∃ r, (r, a) ∈ ranked ++ [p] ∧ ∀ q, (q, b) ∈ ranked ++ [p] → r < q := by
      obtain ⟨r, hr, hall⟩ := hab
      refine ⟨r, mem_append_left _ hr, fun q hq => ?_⟩
      rcases mem_append.mp hq with hq | hq
      · exact hall q hq
      · obtain rfl := mem_singleton.mp hq
        exact hbelow _ hr
    rw [map_append, map_singleton, eraseDups_concat]
    split
    · exact (ih hfront).imp hkept
    · next hnew =>
      have hnew : p.2 ∉ ranked.map Prod.snd := by simpa using hnew
      refine pairwise_append.mpr ⟨(ih hfront).imp hkept, pairwise_singleton _ _, fun a ha b hb => ?_⟩
      obtain rfl := mem_singleton.mp hb
      obtain ⟨⟨r, a⟩, hr, rfl⟩ := mem_map.mp (mem_eraseDups.mp ha)
      exact hkept ⟨r, hr, fun q hq => absurd (mem_map_of_mem (f := Prod.snd) hq) hnew⟩

/-- **Names taken once stand in the order of their least ranks.** -/
theorem pair_sublist_eraseDups_iff (h : ranked.Pairwise fun p q => p.1 < q.1) {a b : α} :
    [a, b] <+ (ranked.map Prod.snd).eraseDups ↔
      ∃ x y, IsLeast {r | (r, a) ∈ ranked} x ∧ IsLeast {r | (r, b) ∈ ranked} y ∧ x < y := by
  have hordered {a b : α} (hab : [a, b] <+ (ranked.map Prod.snd).eraseDups) :
      ∃ r, (r, a) ∈ ranked ∧ ∀ q, (q, b) ∈ ranked → r < q :=
    pairwise_iff_forall_sublist.mp (eraseDups_ranked h) hab
  constructor
  · intro hab
    obtain ⟨r, hr, hbelow⟩ := hordered hab
    have hmem : b ∈ ranked.map Prod.snd := mem_eraseDups.mp (hab.subset (by simp))
    obtain ⟨x, hx⟩ := exists_isLeast_rank (mem_map_of_mem (f := Prod.snd) hr)
    obtain ⟨y, hy⟩ := exists_isLeast_rank hmem
    exact ⟨x, y, hx, hy, (hx.2 hr).trans_lt (hbelow y hy.1)⟩
  · rintro ⟨x, y, hx, hy, hxy⟩
    have hmem {r : κ} {c : α} (hr : (r, c) ∈ ranked) : c ∈ (ranked.map Prod.snd).eraseDups :=
      mem_eraseDups.mpr (mem_map_of_mem (f := Prod.snd) hr)
    have hne : a ≠ b := by
      rintro rfl
      exact hxy.ne (hx.unique hy)
    refine (pair_sublist_or (hmem hx.1) (hmem hy.1) hne).resolve_right fun hba => ?_
    -- Then `b` has a rank below the least one of `a`.
    obtain ⟨r, hr, hbelow⟩ := hordered hba
    exact (hbelow x hx.1).not_ge (hxy.le.trans (hy.2 hr))

/-- Names that are met one after the other and taken once stand in the order in which they are
first met. -/
theorem eraseDups_filterMap {β : Type} (f : β → Option α) (xs : List β) :
    (xs.filterMap f).eraseDups.Pairwise fun a b =>
      ∃ (i : Nat) (x : β), xs[i]? = some x ∧ f x = some a ∧
        ∀ (j : Nat) (y : β), xs[j]? = some y → f y = some b → i < j := by
  let ranked := xs.zipIdx.filterMap fun p => (f p.1).map fun a => (p.2, a)
  have hascending : ranked.Pairwise fun p q => p.1 < q.1 := by
    refine pairwise_filterMap.mpr ((zipIdx_ascending xs).imp fun hlt p hp q hq => ?_)
    obtain ⟨_, -, rfl⟩ := Option.map_eq_some_iff.mp hp
    obtain ⟨_, -, rfl⟩ := Option.map_eq_some_iff.mp hq
    exact hlt
  have hmem {i : Nat} {a : α} : (i, a) ∈ ranked ↔ ∃ x, xs[i]? = some x ∧ f x = some a := by
    simp [ranked, mem_filterMap, mk_mem_zipIdx_iff_getElem?]
  have hnames : ranked.map Prod.snd = xs.filterMap f := by
    rw [← zipIdx_map_fst 0 xs, filterMap_map]
    simp [ranked, map_filterMap, Function.comp_def]
  rw [← hnames]
  refine (eraseDups_ranked hascending).imp ?_
  rintro a b ⟨i, hi, hahead⟩
  obtain ⟨x, hx, hxa⟩ := hmem.mp hi
  exact ⟨i, x, hx, hxa, fun j y hy hyb => hahead j (hmem.mpr ⟨y, hy, hyb⟩)⟩

end Firsts

end EcmaModule
