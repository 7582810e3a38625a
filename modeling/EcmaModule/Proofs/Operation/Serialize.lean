import EcmaModule.Operation
import EcmaModule.Proofs.Json.Document
import EcmaModule.Proofs.Number.Whole
import EcmaModule.Proofs.Value.Holds
import EcmaModule.Proofs.Value.Order

/-! What a value loses in its text.

JSON has no text for some literals, and none for what is undefined. Everything else comes back
from the text of a value as it went in, key by key and in order, whatever the indentation
(`serialize_keeps`). -/
namespace EcmaModule

namespace Value

/-! ### What JSON can carry -/

/-- A number that is finite, zero without its sign; null for any other. -/
def keptNumber : Number → Value
  | .infinite _ => .null
  | .notANumber => .null
  | .negativeZero => .number (.int 0)
  | x => .number x

mutual

/-- A value with null for each literal that JSON has no text for and for each undefined item, and
without its undefined fields. -/
def kept : Value → Value
  | .undefined => .null
  | .bigint _ => .null
  | .regexp _ _ => .null
  | .number x => keptNumber x
  | .array items => .array (keptItems items)
  | .object fields => .object (keptFields fields)
  | v => v

def keptItems : List Value → List Value
  | [] => []
  | v :: rest => kept v :: keptItems rest

def keptFields : Fields → Fields
  | [] => []
  | (_, .undefined) :: rest => keptFields rest
  | (key, v) :: rest => (key, kept v) :: keptFields rest

end

/-- A whole number has a form of its own only below the bound, the fields of an object stand in
their order, and nothing leads back to what encloses it. -/
def WellMade : Value → Prop
  | .number (.int n) => n.natAbs < Number.intBound
  | .number (.dyadic ..) => False
  | .object fields => Ordered fields
  | .enclosing => False
  | _ => True

/-! ### What the reader sees -/

theorem keptFields_keys (fields : Fields) :
    ((keptFields fields).map Prod.fst).Sublist (fields.map Prod.fst) := by
  induction fields with
  | nil => exact .slnil
  | cons f rest ih =>
    obtain ⟨key, v⟩ := f
    cases v with
    | undefined => exact ih.cons key
    | null | bool | number | bigint | regexp | string | array | object | enclosing => exact ih.cons_cons key

/-- Leaving fields out does not change the order of the others. -/
theorem keptFields_ordered {fields : Fields} (h : Ordered fields) : Ordered (keptFields fields) :=
  h.sublist (keptFields_keys fields)

theorem carriedNumber_eq {x : Number} (h : WellMade (.number x)) : Json.carriedNumber x = keptNumber x := by
  have hread (n : Json.Numeral) (hn : n.text = x.toText) : Json.carriedNumber x = .number n.value := by
    have hnumber := Json.number_numeral n Json.delimited_nil
    rw [List.append_nil, hn] at hnumber
    rw [Json.carriedNumber, hnumber]
  cases x with
  | int n =>
    obtain ⟨numeral, htext, hvalue⟩ := Json.number_int h
    rw [hread numeral htext, hvalue]
    rfl
  | negativeZero => exact (hread (.ofNat false 0) rfl).trans rfl
  | dyadic => exact h.elim
  | infinite negative => cases negative <;> rfl
  | notANumber => rfl

mutual

/-- What the text of a well-made value is read as. -/
theorem carried_eq_kept : ∀ {v : Value}, v.Everywhere WellMade → Json.carried v = v.kept
  | .undefined, _ | .null, _ | .bool _, _ | .bigint _, _ | .regexp _ _, _ | .string _, _ => rfl
  | .enclosing, h => h.self.elim
  | .number x, h => carriedNumber_eq h.self
  | .array items, h => by
    rw [Json.carried, kept, carriedItems_eq (everywhere_array_iff.mp h).2]
  | .object fields, h => by
    obtain ⟨hordered, hfields⟩ := everywhere_object_iff.mp h
    rw [Json.carried, kept, carriedFields_eq hfields, ofFields_of_ordered (keptFields_ordered hordered)]

theorem carriedItems_eq : ∀ {items : List Value}, (∀ v ∈ items, v.Everywhere WellMade) →
    Json.carriedItems items = keptItems items
  | [], _ => rfl
  | v :: rest, h => by
    rw [Json.carriedItems, keptItems, carried_eq_kept (h v List.mem_cons_self),
      carriedItems_eq fun u hu => h u (List.mem_cons_of_mem v hu)]

theorem carriedFields_eq : ∀ {fields : Fields}, (∀ f ∈ fields, f.2.Everywhere WellMade) →
    Json.carriedFields fields = keptFields fields
  | [], _ => rfl
  | (key, v) :: rest, h => by
    have hv := carried_eq_kept (h (key, v) List.mem_cons_self)
    have hrest := carriedFields_eq fun f hf => h f (List.mem_cons_of_mem _ hf)
    rw [Json.carriedFields, hrest, hv]
    cases v <;> rfl

end

mutual

theorem isCyclic_of_wellMade : ∀ {v : Value}, v.Everywhere WellMade → Operation.isCyclic v = false
  | .undefined, _ | .null, _ | .bool _, _ | .bigint _, _ | .regexp _ _, _ | .string _, _ | .number _, _ => rfl
  | .enclosing, h => h.self.elim
  | .array _, h => anyCyclic_of_wellMade (everywhere_array_iff.mp h).2
  | .object _, h => anyFieldCyclic_of_wellMade (everywhere_object_iff.mp h).2

theorem anyCyclic_of_wellMade : ∀ {items : List Value}, (∀ v ∈ items, v.Everywhere WellMade) →
    Operation.anyCyclic items = false
  | [], _ => rfl
  | v :: rest, h => by
    rw [Operation.anyCyclic, isCyclic_of_wellMade (h v List.mem_cons_self),
      anyCyclic_of_wellMade fun u hu => h u (List.mem_cons_of_mem v hu), Bool.false_or]

theorem anyFieldCyclic_of_wellMade : ∀ {fields : Fields}, (∀ f ∈ fields, f.2.Everywhere WellMade) →
    Operation.anyFieldCyclic fields = false
  | [], _ => rfl
  | f :: rest, h => by
    rw [Operation.anyFieldCyclic, isCyclic_of_wellMade (h f List.mem_cons_self),
      anyFieldCyclic_of_wellMade fun g hg => h g (List.mem_cons_of_mem f hg), Bool.false_or]

end

end Value

namespace Operation

theorem gapOf_blank (space : Number) : Json.Blank (gapOf space) := by
  intro u hu
  rw [List.eq_of_mem_replicate hu]
  rfl

theorem serialize_ok {v : Value} (hv : v ≠ .undefined) (hcyclic : isCyclic v = false) (gap : Text) :
    serialize v gap = .ok (some (Json.print gap v)) := by
  unfold serialize
  rw [hcyclic, if_neg Bool.false_ne_true]
  split
  · exact absurd rfl hv
  · rfl

/-- **A text loses what JSON cannot carry, and nothing else.** A value that is defined has a text
under any indentation, and each of its texts is read as what is kept of it. -/
theorem serialize_keeps (v : Value) (hv : v ≠ .undefined) (hmade : v.Everywhere Value.WellMade)
    (space : Option Number) :
    ∃ json, serialize v ((space.map gapOf).getD []) = .ok (some json) ∧ Json.read? json = some v.kept := by
  have hblank : Json.Blank ((space.map gapOf).getD []) := by
    cases space with
    | none => exact Json.blank_nil
    | some n => exact gapOf_blank n
  refine ⟨_, serialize_ok hv (Value.isCyclic_of_wellMade hmade) _, ?_⟩
  rw [Json.read_print hblank, Value.carried_eq_kept hmade]

/-- A key that is an index, a literal of each kind that has no text, the greatest whole number, a
lone surrogate, an undefined field and item, and a zero with a sign. -/
theorem literals_kept :
    let items : List Value := [.undefined, .number .notANumber, .number (.int 9007199254740991), .string [0xD800]]
    let fields : Value.Fields :=
      [("1", .bigint 5), ("b", .array items), ("gone", .undefined), ("re", .regexp "a" "g"),
        ("z", .number .negativeZero)]
    (Value.object fields).Everywhere Value.WellMade ∧ ∀ space : Option Number, ∃ json,
      serialize (.object fields) ((space.map gapOf).getD []) = .ok (some json) ∧
        Json.read? json = some (.object [("1", .null),
          ("b", .array [.null, .null, .number (.int 9007199254740991), .string [0xD800]]),
          ("re", .null), ("z", .number (.int 0))]) := by
  intro items fields
  have hordered : Value.Ordered fields := by decide +kernel
  have hexact : (9007199254740991 : Int).natAbs < Number.intBound := by decide
  have hleaf {v : Value} (harray : ∀ items, v ≠ .array items) (hobject : ∀ fields, v ≠ .object fields)
      (h : v.WellMade) : v.Everywhere Value.WellMade := Value.everywhere_leaf harray hobject h
  have hitems : (Value.array items).Everywhere Value.WellMade := by
    refine Value.everywhere_array_iff.mpr ⟨trivial, ?_⟩
    simp only [items, List.forall_mem_cons]
    exact ⟨hleaf nofun nofun trivial, hleaf nofun nofun trivial, hleaf nofun nofun hexact,
      hleaf nofun nofun trivial, nofun⟩
  have hmade : (Value.object fields).Everywhere Value.WellMade := by
    refine Value.everywhere_object_iff.mpr ⟨hordered, ?_⟩
    simp only [fields, List.forall_mem_cons]
    exact ⟨hleaf nofun nofun trivial, hitems, hleaf nofun nofun trivial, hleaf nofun nofun trivial,
      hleaf nofun nofun trivial, nofun⟩
  exact ⟨hmade, fun space => serialize_keeps (.object fields) nofun hmade space⟩

end Operation

end EcmaModule
