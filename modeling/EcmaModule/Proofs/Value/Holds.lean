import EcmaModule.Value

/-! What a value holds: itself, and whatever its items and fields hold. -/
namespace EcmaModule.Value

inductive Holds : Value → Value → Prop where
  | self (v : Value) : Holds v v
  | item {items : List Value} {v u : Value} (hv : v ∈ items) (h : Holds v u) : Holds (.array items) u
  | field {fields : Fields} {f : Text × Value} {u : Value} (hf : f ∈ fields) (h : Holds f.2 u) :
      Holds (.object fields) u

/-! ### Properties of all that a value holds -/

def Everywhere (p : Value → Prop) (v : Value) : Prop := ∀ u, Holds v u → p u

section Everywhere
variable {p : Value → Prop} {items : List Value} {fields : Fields}

theorem Everywhere.self {v : Value} (h : Everywhere p v) : p v := h v (.self v)

theorem everywhere_array_iff :
    Everywhere p (.array items) ↔ p (.array items) ∧ ∀ v ∈ items, Everywhere p v := by
  refine ⟨fun h => ⟨h.self, fun v hv u hu => h u (.item hv hu)⟩, fun ⟨hself, h⟩ u hu => ?_⟩
  cases hu with
  | self => exact hself
  | item hv hu => exact h _ hv u hu

theorem everywhere_object_iff :
    Everywhere p (.object fields) ↔ p (.object fields) ∧ ∀ f ∈ fields, Everywhere p f.2 := by
  refine ⟨fun h => ⟨h.self, fun f hf u hu => h u (.field hf hu)⟩, fun ⟨hself, h⟩ u hu => ?_⟩
  cases hu with
  | self => exact hself
  | field hf hu => exact h _ hf u hu

/-- A value without items and fields holds nothing but itself. -/
theorem everywhere_leaf {v : Value} (harray : ∀ items, v ≠ .array items)
    (hobject : ∀ fields, v ≠ .object fields) (h : p v) : Everywhere p v := by
  intro u hu
  cases hu with
  | self => exact h
  | item => exact absurd rfl (harray _)
  | field => exact absurd rfl (hobject _)

end Everywhere

/-! ### Keys -/

/-- An object has no two fields of one key. -/
def DistinctKeys : Value → Prop
  | .object fields => (fields.map Prod.fst).Nodup
  | _ => True

/-- A field is found by its key. -/
theorem lookup_eq_some_iff {fields : Fields} (h : (fields.map Prod.fst).Nodup) {key : Text} {v : Value} :
    lookup fields key = some v ↔ (key, v) ∈ fields := by
  induction fields with
  | nil => simp [lookup]
  | cons f rest ih =>
    obtain ⟨hfresh, hrest⟩ := List.nodup_cons.mp h
    by_cases hkey : f.1 = key
    · have hnone (w : Value) : (key, w) ∉ rest := fun hw =>
        hfresh (hkey ▸ List.mem_map_of_mem (f := Prod.fst) hw)
      subst hkey
      simp [lookup, hnone, Prod.ext_iff, eq_comm]
    · have hskip : lookup (f :: rest) key = lookup rest key := by simp [lookup, hkey]
      rw [hskip, ih hrest, List.mem_cons, or_iff_right]
      rintro rfl
      exact hkey rfl

end EcmaModule.Value
