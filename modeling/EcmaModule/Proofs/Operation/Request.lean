import EcmaModule.Proofs.Operation.Agreement
import EcmaModule.Proofs.Value.Holds
import EcmaModule.Proofs.Value.Order

/-! Requests, written and decoded.

A request is an object that has a source and a flag among its fields. The fields may stand in any
order, and there may be more of them; the bytes may start with a byte order mark. Both
decoders find what was sent (`request_decoded`), and of bytes that are no request nothing comes
but a problem of decoding. -/
namespace EcmaModule.Operation

open Utf8 (Bytes)

/-- Fields that ask for the dependencies of a source, among others of other keys. -/
structure Asking (fields : Value.Fields) (source : Text) (dynamic : Bool) : Prop where
  nodup : (fields.map Prod.fst).Nodup
  source : (Text.ofString "src", .string source) ∈ fields
  dynamic : (Text.ofString "dynamic", .bool dynamic) ∈ fields

/-- The bytes of an object, with or without a mark in front. -/
inductive Sent (fields : Value.Fields) : Bytes → Prop where
  | plain : Sent fields (Utf8.encode (Json.compact (.object fields)))
  | marked : Sent fields (Utf8.byteOrderMark ++ Utf8.encode (Json.compact (.object fields)))

theorem Sent.decode {fields : Value.Fields} {payload : Bytes} (h : Sent fields payload) :
    Utf8.decode? payload = some (Json.compact (.object fields)) := by
  cases h with
  | plain => exact Json.decode_printObject Text.paired_nil fields
  | marked => exact Utf8.decode_byteOrderMark (Json.paired_print Text.paired_nil _)

/-- A shown field is found in the object that is read. -/
theorem read_object {fields : Value.Fields} (h : (fields.map Prod.fst).Nodup) :
    ∃ fields', Json.read? (Json.compact (.object fields)) = some (.object fields') ∧
      ∀ f ∈ fields, Json.isShown f.2 = true → Value.lookup fields' f.1 = some (Json.carried f.2) := by
  have hkeys : ((Json.carriedFields fields).map Prod.fst).Nodup := by
    rw [Json.carriedFields_filter, List.map_map]
    exact h.sublist (List.filter_sublist.map Prod.fst)
  obtain ⟨fields', hobject, hperm⟩ := Value.ofFields_of_nodup hkeys
  refine ⟨fields', ?_, fun f hf hshown => ?_⟩
  · rw [Json.compact, Json.read_print Json.blank_nil, Json.carried, hobject]
  · refine (Value.lookup_eq_some_iff ((hperm.map Prod.fst).nodup_iff.mpr hkeys)).mpr (hperm.mem_iff.mpr ?_)
    rw [Json.carriedFields_filter]
    exact List.mem_map.mpr ⟨f, List.mem_filter.mpr ⟨hf, hshown⟩, rfl⟩

theorem Asking.asks {fields : Value.Fields} {source : Text} {dynamic : Bool} (h : Asking fields source dynamic)
    {payload : Bytes} (hsent : Sent fields payload) : Asks payload source dynamic := by
  obtain ⟨fields', hread, hlookup⟩ := read_object h.nodup
  exact ⟨_, fields', hsent.decode, hread, hlookup _ h.source rfl, hlookup _ h.dynamic rfl⟩

theorem Asks.parse {payload : Bytes} {source : Text} {dynamic : Bool} (h : Asks payload source dynamic) :
    AsksParse payload source := by
  obtain ⟨t, fields, hbytes, hread, hsource, -⟩ := h
  exact ⟨t, fields, hbytes, hread, hsource⟩

/-- A decoder answers, or its problem is one of decoding. -/
theorem answered_or_undecodable {α : Type} {x : Except Problem α} (h : ∀ p, x = .error p → Undecodable p) :
    (∃ a, x = .ok a) ∨ ∃ m, x = .error (.decoding m) := by
  cases x with
  | ok a => exact .inl ⟨a, rfl⟩
  | error p =>
    obtain ⟨m, rfl⟩ := h p rfl
    exact .inr ⟨m, rfl⟩

/-- **A request is decoded to what was sent.** The source may be any text and the flag either one;
both come back whatever other fields there are, whatever the order of the fields is, and with
a mark in front of the bytes or without. Of any other bytes a decoder makes a request, or
it fails with a problem of decoding; and what is a request for an analysis is one for a
parse of the same source. -/
theorem request_decoded :
    (∀ fields source dynamic, Asking fields source dynamic → ∀ payload, Sent fields payload →
      decodeAnalyzerArguments payload = .ok (source, dynamic) ∧ decodeParseArguments payload = .ok source) ∧
    ∀ payload,
      ((∃ request, decodeAnalyzerArguments payload = .ok request) ∨
        ∃ m, decodeAnalyzerArguments payload = .error (.decoding m)) ∧
      ((∃ source, decodeParseArguments payload = .ok source) ∨
        ∃ m, decodeParseArguments payload = .error (.decoding m)) ∧
      ∀ source dynamic, decodeAnalyzerArguments payload = .ok (source, dynamic) →
        decodeParseArguments payload = .ok source := by
  refine ⟨fun fields source dynamic h payload hsent => ?_, fun payload =>
    ⟨answered_or_undecodable fun _ => decodeAnalyzerArguments_error,
      answered_or_undecodable fun _ => decodeParseArguments_error, fun source dynamic h => ?_⟩⟩
  · have hasks := h.asks hsent
    exact ⟨decodeAnalyzerArguments_ok_iff.mpr hasks, decodeParseArguments_ok_iff.mpr hasks.parse⟩
  · exact decodeParseArguments_ok_iff.mpr (decodeAnalyzerArguments_ok_iff.mp h).parse

/-- A source that starts with a mark of its own and holds a quote, half of a pair and a control. -/
def oddSource : Text := [0xFEFF, 0x22, 0xD800, 0x01]

/-- Its request, with two more fields whose keys an object moves to the front. -/
def oddFields : Value.Fields :=
  [("dynamic", .bool true), ("7", .string "late"), ("src", .string oddSource), ("1", .string oddSource)]

theorem oddSource_decoded :
    Asking oddFields oddSource true ∧
      let payload := Utf8.byteOrderMark ++ Utf8.encode (Json.compact (.object oddFields))
      decodeAnalyzerArguments payload = .ok (oddSource, true) ∧ decodeParseArguments payload = .ok oddSource := by
  have hasking : Asking oddFields oddSource true :=
    ⟨by decide, by simp [oddFields], by simp [oddFields]⟩
  exact ⟨hasking, request_decoded.1 oddFields oddSource true hasking _ .marked⟩

end EcmaModule.Operation
