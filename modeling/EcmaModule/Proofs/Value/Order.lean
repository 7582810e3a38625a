import EcmaModule.Value
import Mathlib.Data.List.Nodup

/-! The order of an object's fields.

Keys that are indices come first and ascend, other keys follow, and no key comes twice. Fields that
already stand in this order are an object's as they are (`ofFields_of_ordered`). -/
namespace EcmaModule.Value

/-- A key may stand before another one. -/
def Precedes (a b : Text) : Prop :=
  match indexOfKey? a, indexOfKey? b with
  | some m, some n => m < n
  | some _, none => True
  | none, some _ => False
  | none, none => a ≠ b

instance (a b : Text) : Decidable (Precedes a b) := by
  unfold Precedes
  split <;> infer_instance

/-- The keys of an object's fields, in their order. -/
def Ordered (fields : Fields) : Prop := (fields.map Prod.fst).Pairwise Precedes

instance (fields : Fields) : Decidable (Ordered fields) := inferInstanceAs (Decidable (List.Pairwise ..))

theorem precedes_ne {a b : Text} (h : Precedes a b) : a ≠ b := by
  rintro rfl
  unfold Precedes at h
  cases hindex : indexOfKey? a with
  | none => simp [hindex] at h
  | some n => simp [hindex] at h

theorem Ordered.nodup {fields : Fields} (h : Ordered fields) : (fields.map Prod.fst).Nodup := h.imp precedes_ne

/-! ### Setting fields -/

/-- A field of a new key goes to the end. -/
theorem setField_fresh {fields : Fields} {key : Text} (h : key ∉ fields.map Prod.fst) (v : Value) :
    setField fields key v = fields ++ [(key, v)] := by
  refine if_neg fun hany => h ?_
  obtain ⟨f, hf, hkey⟩ := List.any_eq_true.mp hany
  exact eq_of_beq hkey ▸ List.mem_map_of_mem hf

theorem foldl_setField (done fields : Fields) (h : ((done ++ fields).map Prod.fst).Nodup) :
    fields.foldl (fun fs f => setField fs f.1 f.2) done = done ++ fields := by
  induction fields generalizing done with
  | nil => simp
  | cons f rest ih =>
    have hfresh : f.1 ∉ done.map Prod.fst := fun hmem => by
      rw [List.map_append] at h
      exact (List.nodup_append.mp h).2.2 f.1 hmem f.1 (by simp) rfl
    rw [List.foldl_cons, setField_fresh hfresh, ih _ (by simpa using h)]
    simp

/-! ### Enumerating fields -/

/-- A field behind all the others stays there. -/
theorem insertIndexed_last {field : Nat × Text × Value} {sorted : List (Nat × Text × Value)}
    (h : ∀ f ∈ sorted, f.1 < field.1) : insertIndexed field.1 field sorted = sorted ++ [field] := by
  induction sorted with
  | nil => rfl
  | cons f rest ih =>
    have hf := h f List.mem_cons_self
    rw [insertIndexed, if_neg (by omega), ih fun g hg => h g (List.mem_cons_of_mem f hg), List.cons_append]

theorem foldl_insertIndexed (done fields : List (Nat × Text × Value))
    (h : (done ++ fields).Pairwise fun a b => a.1 < b.1) :
    fields.foldl (fun sorted f => insertIndexed f.1 f sorted) done = done ++ fields := by
  induction fields generalizing done with
  | nil => simp
  | cons f rest ih =>
    have hlast : ∀ g ∈ done, g.1 < f.1 := fun g hg =>
      (List.pairwise_append.mp h).2.2 g hg f List.mem_cons_self
    rw [List.foldl_cons, insertIndexed_last hlast, ih _ (by simpa using h)]
    simp

/-- The fields whose keys are indices, with these. -/
def indexed (fields : Fields) : List (Nat × Text × Value) :=
  fields.filterMap fun f => (indexOfKey? f.1).map fun n => (n, f.1, f.2)

/-- The fields whose keys are no indices. -/
def named (fields : Fields) : Fields := fields.filter fun f => (indexOfKey? f.1).isNone

theorem indexed_ascending {fields : Fields} (h : Ordered fields) :
    (indexed fields).Pairwise fun a b => a.1 < b.1 := by
  refine List.pairwise_filterMap.mpr ((List.pairwise_map.mp h).imp fun {f g} hfg a ha b hb => ?_)
  obtain ⟨m, hm, rfl⟩ := Option.map_eq_some_iff.mp ha
  obtain ⟨n, hn, rfl⟩ := Option.map_eq_some_iff.mp hb
  simpa [Precedes, hm, hn] using hfg

/-- In order, the fields with indices stand in front of the others. -/
theorem indexed_append_named {fields : Fields} (h : Ordered fields) :
    (indexed fields).map (·.2) ++ named fields = fields := by
  induction fields with
  | nil => rfl
  | cons f rest ih =>
    obtain ⟨hfirst, hrest⟩ := List.pairwise_cons.mp h
    cases hindex : indexOfKey? f.1 with
    | some n => simpa [indexed, named, hindex] using ih hrest
    | none =>
      -- Nothing behind a key that is no index is one.
      have hnone : ∀ g ∈ rest, indexOfKey? g.1 = none := fun g hg => by
        have hfg := hfirst g.1 (List.mem_map_of_mem hg)
        cases hg' : indexOfKey? g.1 with
        | none => rfl
        | some n => simp [Precedes, hindex, hg'] at hfg
      have hindexed : indexed rest = [] := List.filterMap_eq_nil_iff.mpr fun g hg => by simp [hnone g hg]
      have hnamed : named rest = rest := List.filter_eq_self.mpr fun g hg => by simp [hnone g hg]
      unfold indexed named at *
      simp [hindex, hindexed, hnamed]

theorem enumerate_of_ordered {fields : Fields} (h : Ordered fields) : enumerate fields = fields := by
  show ((indexed fields).foldl (fun sorted f => insertIndexed f.1 f sorted) []).map (·.2) ++
    named fields = fields
  rw [foldl_insertIndexed [] (indexed fields) (indexed_ascending h), List.nil_append, indexed_append_named h]

/-! ### Any order -/

theorem insertIndexed_perm (field : Nat × Text × Value) (sorted : List (Nat × Text × Value)) :
    (insertIndexed field.1 field sorted).Perm (field :: sorted) := by
  induction sorted with
  | nil => exact .refl _
  | cons f rest ih =>
    unfold insertIndexed
    split
    · exact .refl _
    · exact (ih.cons f).trans (.swap field f rest)

theorem foldl_insertIndexed_perm (done fields : List (Nat × Text × Value)) :
    (fields.foldl (fun sorted f => insertIndexed f.1 f sorted) done).Perm (done ++ fields) := by
  induction fields generalizing done with
  | nil => simp
  | cons f rest ih =>
    exact (ih _).trans (((insertIndexed_perm f done).append_right rest).trans List.perm_middle.symm)

theorem indexed_append_named_perm (fields : Fields) : ((indexed fields).map (·.2) ++ named fields).Perm fields := by
  induction fields with
  | nil => exact .refl _
  | cons f rest ih =>
    unfold indexed named at *
    cases hindex : indexOfKey? f.1 with
    | some n => simpa [hindex] using ih
    | none =>
      simp only [hindex, List.filterMap_cons, List.filter_cons, Option.map_none, Option.isNone_none, if_true]
      exact List.perm_middle.trans (ih.cons f)

/-- Enumerating fields only moves them. -/
theorem enumerate_perm (fields : Fields) : (enumerate fields).Perm fields :=
  (((foldl_insertIndexed_perm [] (indexed fields)).map _).append_right _).trans (indexed_append_named_perm fields)

/-- **An object has the fields it is made of**, in an order of its own. -/
theorem ofFields_of_nodup {fields : Fields} (h : (fields.map Prod.fst).Nodup) :
    ∃ fields', ofFields fields = .object fields' ∧ fields'.Perm fields := by
  refine ⟨_, rfl, ?_⟩
  rw [foldl_setField [] fields h]
  exact enumerate_perm fields

/-- **Fields in order are kept as they are.** -/
theorem ofFields_of_ordered {fields : Fields} (h : Ordered fields) : ofFields fields = .object fields := by
  rw [ofFields, foldl_setField [] fields h.nodup, List.nil_append, enumerate_of_ordered h]

end EcmaModule.Value
