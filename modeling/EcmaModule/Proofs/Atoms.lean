import EcmaModule.Atoms
import EcmaModule.Proofs.Ranking

/-! What interning makes of a table.

A table only grows, and it grows at its end: names that are interned one after the other go
behind those that were there, each once, at its first place (`foldl_insert_names`). So no name
comes twice, and the id of a name is where it stands (`lookup_eq_some_iff`). -/
namespace EcmaModule.Atoms

variable {a : Atoms} {name : Text}

/-! ### Scopes -/

theorem closed_opened (a : Atoms) : a.opened.closed = a := rfl

/-- An open scope that is closed and opened again is as it was. -/
theorem opened_closed (h : a.active = true) : a.closed.opened = a := by
  have hdepth : 0 < a.depth := of_decide_eq_true h
  show {a with depth := a.depth - 1 + 1} = a
  rw [Nat.sub_add_cancel hdepth]

theorem insert_opened (a : Atoms) (name : Text) : a.opened.insert name = (a.insert name).opened := by
  unfold Atoms.insert
  show (if a.names.contains name then a.opened else ⟨a.names ++ [name], a.depth + 1⟩) =
    Atoms.opened (if a.names.contains name then a else ⟨a.names ++ [name], a.depth⟩)
  split <;> rfl

theorem foldl_insert_opened (names : List Text) (a : Atoms) :
    names.foldl Atoms.insert a.opened = (names.foldl Atoms.insert a).opened := by
  induction names generalizing a with
  | nil => rfl
  | cons name rest ih => rw [List.foldl_cons, insert_opened, ih, List.foldl_cons]

theorem insert_depth (a : Atoms) (name : Text) : (a.insert name).depth = a.depth := by
  unfold Atoms.insert
  split <;> rfl

theorem foldl_insert_depth (names : List Text) (a : Atoms) :
    (names.foldl Atoms.insert a).depth = a.depth := by
  induction names generalizing a with
  | nil => rfl
  | cons name rest ih => rw [List.foldl_cons, ih, insert_depth]

/-! ### Growing -/

theorem insert_names (a : Atoms) (name : Text) :
    (a.insert name).names = if name ∈ a.names then a.names else a.names ++ [name] := by
  unfold Atoms.insert
  by_cases hthere : name ∈ a.names <;> simp [hthere]

/-- **Names that are interned go behind those that were there**, each once, at its first place. -/
theorem foldl_insert_names (names : List Text) (a : Atoms) :
    (names.foldl Atoms.insert a).names = a.names ++ names.eraseDups.filter (· ∉ a.names) := by
  induction names using List.reverseRecOn with
  | nil => simp
  | append_singleton names name ih =>
    rw [List.foldl_concat, insert_names, eraseDups_concat]
    by_cases hmet : name ∈ names
    · by_cases hthere : name ∈ a.names <;> simp [ih, hmet, hthere]
    · by_cases hthere : name ∈ a.names <;> simp [ih, hmet, hthere]

theorem foldl_insert_extends (names : List Text) (a : Atoms) :
    a.names <+: (names.foldl Atoms.insert a).names := by
  rw [foldl_insert_names]
  exact List.prefix_append _ _

/-! ### Ids -/

theorem foldl_insert_nodup (names : List Text) (h : a.names.Nodup) :
    (names.foldl Atoms.insert a).names.Nodup := by
  rw [foldl_insert_names]
  refine List.nodup_append.mpr ⟨h, (nodup_eraseDups names).filter _, fun old hold fresh hfresh heq => ?_⟩
  have hnew : fresh ∉ a.names := of_decide_eq_true (List.mem_filter.mp hfresh).2
  exact hnew (heq ▸ hold)

/-- The id of a name is where it stands. -/
theorem lookup_eq_some_iff (h : a.names.Nodup) {i : Nat} :
    a.lookup name = some i ↔ a.names[i]? = some name := by
  rw [lookup, List.findIdx?_eq_some_iff_getElem, List.getElem?_eq_some_iff]
  refine exists_congr fun hi => ⟨fun hfirst => by simpa using hfirst.1, ?_⟩
  rintro rfl
  refine ⟨BEq.rfl, fun j hj heq => hj.ne ?_⟩
  exact h.getElem_inj_iff.mp (eq_of_beq heq)

theorem lookup_insert (a : Atoms) (name : Text) : ∃ n, (a.insert name).lookup name = some n := by
  have hmem : name ∈ (a.insert name).names := by
    rw [insert_names]
    split
    · assumption
    · simp
  cases h : (a.insert name).lookup name with
  | some n => exact ⟨n, rfl⟩
  | none =>
    have := List.findIdx?_eq_none_iff.mp h name hmem
    simp at this

/-- Interning answers the id of the name. -/
theorem intern_of_active (h : a.active = true) (name : Text) :
    ∃ n, (a.insert name).lookup name = some n ∧ a.intern? name = some (n, a.insert name) := by
  obtain ⟨n, hn⟩ := lookup_insert a name
  exact ⟨n, hn, by simp [Atoms.intern?, h, hn]⟩

theorem intern_of_inactive (h : a.active = false) (name : Text) : a.intern? name = none := by
  simp [Atoms.intern?, h]

end EcmaModule.Atoms
