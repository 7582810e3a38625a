import EcmaModule.Proofs.Value.Holds
import Mathlib.Data.List.Forall2
import Mathlib.Data.List.Perm.Basic

/-! Values that are equal but for the order of fields.

The fields of every object may stand in any order, at any depth; items keep theirs. Fields of
one key then hold values that are again equal but for the order of fields (`Reordered.get`). -/
namespace EcmaModule.Value

inductive Reordered : Value → Value → Prop where
  | refl (v : Value) : Reordered v v
  | array {items items' : List Value} (hlength : items.length = items'.length)
    (h : ∀ (i : Nat) (v w : Value), items[i]? = some v → items'[i]? = some w → Reordered v w) :
    Reordered (.array items) (.array items')
  | object {fields fields' : Fields} (hkeys : (fields.map Prod.fst).Perm (fields'.map Prod.fst))
    (h : ∀ (key : Text) (v w : Value), (key, v) ∈ fields → (key, w) ∈ fields' → Reordered v w) :
    Reordered (.object fields) (.object fields')

/-- Fields of the same keys can be put into an order in which they match one by one. -/
theorem keys_matched {fields fields' : Fields} (h : (fields.map Prod.fst).Perm (fields'.map Prod.fst)) :
    ∃ fields'', fields''.Perm fields' ∧
      List.Forall₂ (fun f g => f ∈ fields ∧ (f.1, g.2) ∈ fields' ∧ f.1 = g.1) fields fields'' := by
  have hsame : List.Forall₂ (fun (key : Text) (g : Text × Value) => key = g.1)
      (fields'.map Prod.fst) fields' :=
    List.forall₂_map_left_iff.mpr (List.forall₂_same.mpr fun g _ => rfl)
  obtain ⟨fields'', hmatch, hperm⟩ := List.perm_comp_forall₂ h hsame
  obtain ⟨hlength, hmatch⟩ := List.forall₂_iff_get.mp (List.forall₂_map_left_iff.mp hmatch)
  refine ⟨fields'', hperm, List.forall₂_iff_get.mpr ⟨hlength, fun i hi hi' => ?_⟩⟩
  have hkey := hmatch i hi hi'
  exact ⟨List.get_mem _ _, hkey ▸ hperm.mem_iff.mp (List.get_mem _ _), hkey⟩

namespace Reordered

theorem symm {v w : Value} (h : Reordered v w) : Reordered w v := by
  induction h with
  | refl v => exact .refl v
  | array hlength _ ih => exact .array hlength.symm fun i v w hv hw => ih i w v hw hv
  | object hkeys _ ih => exact .object hkeys.symm fun key v w hv hw => ih key w v hw hv

/-- Fields alone may change places. -/
theorem of_perm {fields fields' : Fields} (h : fields.Perm fields') (hfields : DistinctKeys (.object fields)) :
    Reordered (.object fields) (.object fields') := by
  refine .object (h.map Prod.fst) fun key v w hv hw => ?_
  have hv := (lookup_eq_some_iff hfields).mpr hv
  have hw := (lookup_eq_some_iff hfields).mpr (h.mem_iff.mpr hw)
  obtain rfl := Option.some.inj (hv.symm.trans hw)
  exact .refl v

/-! ### Leaves and arrays -/

theorem string {t : Text} {w : Value} (h : Reordered (.string t) w) : w = .string t := by
  cases h
  rfl

theorem number {n : Number} {w : Value} (h : Reordered (.number n) w) : w = .number n := by
  cases h
  rfl

theorem items {items : List Value} {w : Value} (h : Reordered (.array items) w) :
    ∃ items', w = .array items' ∧ List.Forall₂ Reordered items items' := by
  cases h with
  | refl => exact ⟨items, rfl, List.forall₂_same.mpr fun v _ => .refl v⟩
  | array hlength h =>
    refine ⟨_, rfl, List.forall₂_iff_get.mpr ⟨hlength, fun i hi hi' => h i _ _ ?_ ?_⟩⟩
    · simp [hi]
    · simp [hi']

/-! ### Objects -/

theorem keyed {v w : Value} (h : Reordered v w) (hv : v.Everywhere DistinctKeys) :
    w.Everywhere DistinctKeys := by
  induction h with
  | refl v => exact hv
  | @array items items' hlength _ ih =>
    obtain ⟨-, hitems⟩ := everywhere_array_iff.mp hv
    refine everywhere_array_iff.mpr ⟨trivial, fun w hw => ?_⟩
    obtain ⟨i, hi, rfl⟩ := List.mem_iff_getElem.mp hw
    have hi' : i < items.length := hlength ▸ hi
    exact ih i items[i] _ (by simp) (by simp) (hitems _ (List.getElem_mem hi'))
  | @object fields fields' hkeys _ ih =>
    obtain ⟨hself, hfields⟩ := everywhere_object_iff.mp hv
    refine everywhere_object_iff.mpr ⟨hkeys.nodup_iff.mp hself, fun g hg => ?_⟩
    have hkey : g.1 ∈ fields.map Prod.fst := hkeys.mem_iff.mpr (List.mem_map_of_mem hg)
    obtain ⟨f, hf, hfg⟩ := List.mem_map.mp hkey
    exact ih g.1 f.2 g.2 (hfg ▸ hf) hg (hfields f hf)

theorem get {v w : Value} (h : Reordered v w) (hv : v.Everywhere DistinctKeys) (key : Text) :
    Reordered (v.get key) (w.get key) := by
  cases h with
  | refl => exact .refl _
  | array => exact .refl _
  | @object fields fields' hkeys h =>
    have hfields : (fields.map Prod.fst).Nodup := hv.self
    have hfields' : (fields'.map Prod.fst).Nodup := hkeys.nodup_iff.mp hfields
    have hsome (fields : Fields) : (lookup fields key).isSome ↔ key ∈ fields.map Prod.fst := by
      simp [lookup]
    show Reordered ((lookup fields key).getD undefined) ((lookup fields' key).getD undefined)
    cases hlookup : lookup fields key with
    | none =>
      have hnone : ¬ (lookup fields' key).isSome := by
        rw [hsome, ← hkeys.mem_iff, ← hsome, hlookup]
        simp
      rw [Option.not_isSome_iff_eq_none.mp hnone]
      exact .refl _
    | some v =>
      have hboth : (lookup fields' key).isSome := by
        rw [hsome, ← hkeys.mem_iff, ← hsome, hlookup]
        rfl
      obtain ⟨w, hlookup'⟩ := Option.isSome_iff_exists.mp hboth
      rw [hlookup']
      exact h key v w ((lookup_eq_some_iff hfields).mp hlookup) ((lookup_eq_some_iff hfields').mp hlookup')

end Reordered

theorem get_keyed {v : Value} (hv : v.Everywhere DistinctKeys) (key : Text) :
    (v.get key).Everywhere DistinctKeys := by
  have hundefined : Everywhere DistinctKeys undefined := everywhere_leaf nofun nofun trivial
  cases v with
  | object fields =>
    show Everywhere DistinctKeys ((lookup fields key).getD undefined)
    cases hlookup : lookup fields key with
    | none => exact hundefined
    | some w =>
      have hfield := (lookup_eq_some_iff hv.self).mp hlookup
      exact (everywhere_object_iff.mp hv).2 (key, w) hfield
  | array | undefined | null | bool | number | bigint | regexp | string | enclosing => exact hundefined

end EcmaModule.Value
