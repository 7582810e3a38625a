import EcmaModule.Grammar.Standard
import EcmaModule.Proofs.Dependency.Listing
import EcmaModule.Proofs.Engine.Outcome
import EcmaModule.Proofs.Json.Document
import EcmaModule.Proofs.Operation.Envelope

/-! What the operations answer.

Decoding a request can only fail with a decoding problem, writing a result only with a
problem of serialization, and both become texts; so an operation answers every payload,
and what it answers is read back twice (`dispatch_answers`). The answer of an analysis
tells its three cases apart: a list for a source that parses, one fixed text for a source
that does not, and a text of its own for bytes that are no request. -/
namespace EcmaModule.Operation

open Utf8 (Bytes)

/-! ### Requests -/

/-- The bytes ask for the dependencies of a source: they are the text of an object with a
source that is a string, and a flag. -/
def Asks (payload : Bytes) (source : Text) (dynamic : Bool) : Prop :=
  ∃ t fields, Utf8.decode? payload = some t ∧ Json.read? t = some (.object fields) ∧
    Value.lookup fields "src" = some (.string source) ∧ Value.lookup fields "dynamic" = some (.bool dynamic)

/-- A problem of decoding. -/
def Undecodable (p : Problem) : Prop := ∃ m, p = .decoding m

section Bind
variable {α β : Type} {x : Except Problem α} {f : α → Except Problem β}

theorem bind_ok_iff {b : β} : x >>= f = .ok b ↔ ∃ a, x = .ok a ∧ f a = .ok b := by
  cases x with
  | error p => exact iff_of_false (fun h => nomatch h) fun ⟨_, h, _⟩ => nomatch h
  | ok a =>
    refine ⟨fun h => ⟨a, rfl, h⟩, fun ⟨a', ha, h⟩ => ?_⟩
    rw [← Except.ok.inj ha] at h
    exact h

theorem bind_error {p : Problem} (h : x >>= f = .error p) :
    x = .error p ∨ ∃ a, x = .ok a ∧ f a = .error p := by
  cases x with
  | error q => exact .inl (congrArg Except.error (Except.error.inj h))
  | ok a => exact .inr ⟨a, rfl, h⟩

end Bind

theorem decodeObject_error {payload : Bytes} {p : Problem} (h : decodeObject payload = .error p) :
    Undecodable p := by
  unfold decodeObject at h
  split at h
  · exact ⟨_, (Except.error.inj h).symm⟩
  · split at h
    · exact ⟨_, (Except.error.inj h).symm⟩
    · split at h
      · cases h
      · exact ⟨_, (Except.error.inj h).symm⟩

theorem stringField_error {v : Value} {field : Text} {p : Problem} (h : stringField v field = .error p) :
    Undecodable p := by
  unfold stringField at h
  split at h
  · cases h
  · exact ⟨_, (Except.error.inj h).symm⟩

theorem booleanField_error {v : Value} {field : Text} {p : Problem} (h : booleanField v field = .error p) :
    Undecodable p := by
  unfold booleanField at h
  split at h
  · cases h
  · exact ⟨_, (Except.error.inj h).symm⟩

theorem decodeParseArguments_error {payload : Bytes} {p : Problem}
    (h : decodeParseArguments payload = .error p) : Undecodable p := by
  rcases bind_error h with h | ⟨request, _, h⟩
  · exact decodeObject_error h
  · exact stringField_error h

theorem decodeAnalyzerArguments_error {payload : Bytes} {p : Problem}
    (h : decodeAnalyzerArguments payload = .error p) : Undecodable p := by
  rcases bind_error h with h | ⟨request, _, h⟩
  · exact decodeObject_error h
  · rcases bind_error h with h | ⟨source, _, h⟩
    · exact stringField_error h
    · rcases bind_error h with h | ⟨dynamic, _, h⟩
      · exact booleanField_error h
      · cases h

/-- Only an object has fields. -/
theorem get_eq_iff {v w : Value} (hw : w ≠ .undefined) {field : Text} :
    v.get field = w ↔ ∃ fields, v = .object fields ∧ Value.lookup fields field = some w := by
  constructor
  · intro h
    cases v with
    | object fields =>
      refine ⟨fields, rfl, ?_⟩
      have hget : (Value.lookup fields field).getD .undefined = w := h
      cases hlookup : Value.lookup fields field with
      | none =>
        rw [hlookup] at hget
        exact absurd hget.symm hw
      | some u =>
        rw [hlookup] at hget
        exact congrArg some hget
    | undefined | null | bool | number | bigint | regexp | string | array | enclosing => exact absurd h.symm hw
  · rintro ⟨fields, rfl, h⟩
    show (Value.lookup fields field).getD .undefined = w
    rw [h]
    rfl

theorem decodeObject_ok_iff {payload : Bytes} {v : Value} :
    decodeObject payload = .ok v ↔
      (∃ t, Utf8.decode? payload = some t ∧ Json.read? t = some v) ∧ v.isRecord = true := by
  rw [← Option.bind_eq_some_iff]
  unfold decodeObject
  cases Utf8.decode? payload with
  | none => exact iff_of_false (fun h => nomatch h) fun h => nomatch h.1
  | some t =>
    simp only [Option.bind_some]
    cases Json.read? t with
    | none => exact iff_of_false (fun h => nomatch h) fun h => nomatch h.1
    | some u =>
      by_cases hrecord : u.isRecord = true
      · simp only [if_pos hrecord, Except.ok.injEq, Option.some.injEq]
        exact ⟨fun h => ⟨h, h ▸ hrecord⟩, And.left⟩
      · simp only [if_neg hrecord, Option.some.injEq]
        exact iff_of_false (fun h => nomatch h) fun h => hrecord (h.1 ▸ h.2)

theorem stringField_ok_iff {v : Value} {field t : Text} :
    stringField v field = .ok t ↔
      ∃ fields, v = .object fields ∧ Value.lookup fields field = some (.string t) := by
  have hfield : stringField v field = .ok t ↔ v.get field = .string t := by
    unfold stringField
    cases v.get field <;> simp
  exact hfield.trans (get_eq_iff (w := .string t) nofun)

theorem booleanField_ok_iff {v : Value} {field : Text} {b : Bool} :
    booleanField v field = .ok b ↔
      ∃ fields, v = .object fields ∧ Value.lookup fields field = some (.bool b) := by
  have hfield : booleanField v field = .ok b ↔ v.get field = .bool b := by
    unfold booleanField
    cases v.get field <;> simp
  exact hfield.trans (get_eq_iff (w := .bool b) nofun)

/-- A request is decoded to what it asks for. -/
theorem decodeAnalyzerArguments_ok_iff {payload : Bytes} {source : Text} {dynamic : Bool} :
    decodeAnalyzerArguments payload = .ok (source, dynamic) ↔ Asks payload source dynamic := by
  unfold decodeAnalyzerArguments Asks
  rw [bind_ok_iff]
  constructor
  · rintro ⟨request, hobject, hrest⟩
    obtain ⟨source', hsource, hrest⟩ := bind_ok_iff.mp hrest
    obtain ⟨dynamic', hdynamic, hrest⟩ := bind_ok_iff.mp hrest
    cases hrest
    obtain ⟨⟨t, hbytes, hread⟩, -⟩ := decodeObject_ok_iff.mp hobject
    obtain ⟨fields, rfl, hstring⟩ := stringField_ok_iff.mp hsource
    obtain ⟨_, hfields, hboolean⟩ := booleanField_ok_iff.mp hdynamic
    cases hfields
    exact ⟨t, fields, hbytes, hread, hstring, hboolean⟩
  · rintro ⟨t, fields, hbytes, hread, hsource, hdynamic⟩
    have hobject : decodeObject payload = .ok (.object fields) :=
      decodeObject_ok_iff.mpr ⟨⟨t, hbytes, hread⟩, rfl⟩
    have hstring : stringField (.object fields) "src" = .ok source :=
      stringField_ok_iff.mpr ⟨fields, rfl, hsource⟩
    have hboolean : booleanField (.object fields) "dynamic" = .ok dynamic :=
      booleanField_ok_iff.mpr ⟨fields, rfl, hdynamic⟩
    exact ⟨_, hobject, bind_ok_iff.mpr ⟨_, hstring, bind_ok_iff.mpr ⟨_, hboolean, rfl⟩⟩⟩

/-! ### Results -/

/-- A response carries a JSON text of a value. -/
def Answers (response : Bytes) (v : Value) : Prop :=
  ∃ json, decodeResult response = .ok json ∧ Json.read? json = some v

/-- Strings of which none is there twice. -/
def IsListing (v : Value) : Prop := ∃ specifiers : List Text, v = .array (specifiers.map .string) ∧ specifiers.Nodup

/-- The text for a source that does not parse. -/
def IsSentinel (v : Value) : Prop := v = .string (Text.ofString "parse_error")

/-- A text that tells why a request cannot be decoded. -/
def IsRefusal (v : Value) : Prop := ∃ m, v = .string (Text.ofString "decode_error: " ++ m)

/-- The grammar takes the source: it goes on from no error, and ends with a tree. -/
def Parses (run : Grammar.Run) : Prop :=
  Engine.complaints run.events = [] ∧ ∃ module, run.ending = .tree module ∧ module ≠ .undefined

theorem module_isSome_iff {ending : Grammar.Ending} :
    ending.module?.isSome = true ↔ ∃ module, ending = .tree module ∧ module ≠ .undefined :=
  Option.isSome_iff_exists.trans (exists_congr fun _ => Engine.module_eq_some_iff)

instance (ending : Grammar.Ending) : Decidable (∃ module, ending = .tree module ∧ module ≠ .undefined) :=
  decidable_of_iff _ module_isSome_iff

instance (run : Grammar.Run) : Decidable (Parses run) := inferInstanceAs (Decidable (_ ∧ _))

theorem listing_not_text {v : Value} (h : IsListing v) (t : Text) : v ≠ .string t := by
  obtain ⟨specifiers, rfl, -⟩ := h
  exact nofun

theorem sentinel_not_refusal {v : Value} (h : IsSentinel v) : ¬ IsRefusal v := by
  rintro ⟨m, hm⟩
  have htext : Text.ofString "parse_error" = Text.ofString "decode_error: " ++ m :=
    Value.string.inj (h.symm.trans hm)
  have hhead : some (0x70 : UInt16) = some 0x64 := congrArg List.head? htext
  exact absurd hhead (by decide)

theorem answers_encode {json : Text} {v : Value} (h : Json.read? json = some v) :
    Answers (encodeResult json) v := ⟨json, decode_encode_result json, h⟩

/-- A listing succeeds if the source parses. -/
theorem analyze_parses (grammar : Grammar) (dynamic : Bool) (source : Text) :
    let run := grammar .typescript source
    match (Engine.analyze grammar {} dynamic source {}).1 with
    | .ok specifiers => Parses run ∧ specifiers.Nodup
    | .failed _ => ¬ Parses run := by
  intro run
  let name := Engine.analysisName .typescript
  have hok := Engine.parseModule_ok_iff grammar {} name source (c := {}) rfl
  have hnotices (module : Value) (h : run.ending = .tree module) :
      Engine.notices true run = [] ↔ Engine.complaints run.events = [] := by
    simp [Engine.notices, h]
  show match Engine.listing dynamic (Engine.parseModule grammar {} name source {}).1 with
    | .ok specifiers => Parses run ∧ specifiers.Nodup
    | .failed _ => ¬ Parses run
  cases hparse : (Engine.parseModule grammar {} name source {}).1 with
  | ok module =>
    obtain ⟨hmodule, hnone⟩ := (hok module).mp hparse
    have hending := Engine.module_eq_some_iff.mp hmodule
    exact ⟨⟨(hnotices module hending.1).mp hnone, module, hending⟩, Dependency.collect_nodup dynamic module⟩
  | failed failure =>
    rintro ⟨hcomplaints, module, hending⟩
    have hmodule := Engine.module_eq_some_iff.mpr hending
    have hparsed := (hok module).mpr ⟨hmodule, (hnotices module hending.1).mpr hcomplaints⟩
    rw [hparse] at hparsed
    cases hparsed

theorem carriedItems_strings (ts : List Text) :
    Json.carriedItems (ts.map Value.string) = ts.map Value.string := by
  rw [Json.carriedItems_map, List.map_map]
  rfl

theorem read_strings (ts : List Text) :
    Json.read? (Json.compact (.array (ts.map .string))) = some (.array (ts.map .string)) := by
  have hread := Json.read_print Json.blank_nil (.array (ts.map .string))
  rw [Json.carried, carriedItems_strings] at hread
  exact hread

/-- The text of a listing holds its specifiers, or the sentinel. -/
theorem read_listing (listed : Engine.Listing) :
    ∃ v, Json.read? (listingText listed) = some v ∧
      (∀ specifiers, listed = .ok specifiers → v = .array (specifiers.map .string)) ∧
      ∀ failure, listed = .failed failure → IsSentinel v := by
  cases listed with
  | ok specifiers =>
    refine ⟨_, read_strings specifiers, ?_, nofun⟩
    rintro _ ⟨⟩
    rfl
  | failed failure => exact ⟨_, Json.read_quote parseErrorSentinel, nofun, fun _ _ => rfl⟩

/-- Which of the two it is tells whether the source parses. -/
theorem read_listingText (grammar : Grammar) (dynamic : Bool) (source : Text) :
    let run := grammar .typescript source
    ∃ v, Json.read? (listingText (Engine.analyze grammar {} dynamic source {}).1) = some v ∧
      (IsListing v ∧ Parses run ∨ IsSentinel v ∧ ¬ Parses run) := by
  intro run
  have hparses := analyze_parses grammar dynamic source
  obtain ⟨v, hread, hlisted, hsentinel⟩ := read_listing (Engine.analyze grammar {} dynamic source {}).1
  refine ⟨v, hread, ?_⟩
  cases hlisting : (Engine.analyze grammar {} dynamic source {}).1 with
  | ok specifiers =>
    rw [hlisting] at hparses
    exact .inl ⟨⟨specifiers, hlisted _ hlisting, hparses.2⟩, hparses.1⟩
  | failed failure =>
    rw [hlisting] at hparses
    exact .inr ⟨hsentinel _ hlisting, hparses⟩

/-! ### Bodies -/

/-- A problem of serialization. -/
def Unserializable (p : Problem) : Prop := ∃ m, p = .serialization m

/-- A body comes to the text of a value, or to a problem that has a text of its own. -/
def Answerable : Except Problem Text → Prop
  | .ok json => ∃ v, Json.read? json = some v
  | .error p => Undecodable p ∨ Unserializable p

/-- An answerable body is answered. -/
theorem runOperation_answers {result : Except Problem Text} (h : Answerable result) :
    ∃ b v, runOperation result = .ok b ∧ Answers b v := by
  cases result with
  | ok json =>
    obtain ⟨v, hread⟩ := h
    exact ⟨_, v, rfl, answers_encode hread⟩
  | error p =>
    obtain ⟨m, rfl⟩ | ⟨m, rfl⟩ := h
    · exact ⟨_, _, rfl, answers_encode (Json.read_quote _)⟩
    · exact ⟨_, _, rfl, answers_encode (Json.read_quote _)⟩

/-- A problem of decoding is answered with its message. -/
theorem runOperation_refuses {result : Except Problem Text} {p : Problem} (h : result = .error p)
    (hp : Undecodable p) : ∃ b v, runOperation result = .ok b ∧ Answers b v ∧ IsRefusal v := by
  obtain ⟨m, rfl⟩ := hp
  subst h
  exact ⟨_, _, rfl, answers_encode (Json.read_quote _), m, rfl⟩

theorem outcomeText_answerable {o : Outcome} (h : ∀ module, o = .ok module → module ≠ .undefined) :
    Answerable (outcomeText o) := by
  cases o with
  | failed f => exact ⟨_, Json.read_quote f.message⟩
  | ok module =>
    have hdefined := h module rfl
    show Answerable ((serialize module []).map (·.getD []))
    unfold serialize
    split
    · exact .inr ⟨_, rfl⟩
    · split
      · exact absurd rfl hdefined
      · exact ⟨_, Json.read_print Json.blank_nil _⟩

/-- A parse that succeeds hands over a tree. -/
theorem parsed_defined {grammar : Grammar} {config : Configuration} {name source : Text} {module : Value}
    (h : (Engine.parseModule grammar config name source {}).1 = .ok module) : module ≠ .undefined :=
  have hok := Engine.parseModule_ok_iff grammar config name source (c := {}) rfl module
  (Engine.module_eq_some_iff.mp (hok.mp h).1).2

theorem bind_answerable {α : Type} {x : Except Problem α} {f : α → Except Problem Text}
    (hx : ∀ p, x = .error p → Undecodable p) (hf : ∀ a, Answerable (f a)) : Answerable (x >>= f) := by
  cases x with
  | ok a => exact hf a
  | error p => exact .inl (hx p rfl)

/-- Each body is answerable, whatever the payload. -/
theorem body_answerable (grammar : Grammar) (op : Name) (payload : Bytes) :
    Answerable (body grammar op payload) := by
  cases op with
  | parse =>
    exact bind_answerable (fun _ => decodeParseArguments_error) fun _ =>
      outcomeText_answerable fun _ => parsed_defined
  | parseTypeScript =>
    exact bind_answerable (fun _ => decodeParseArguments_error) fun _ =>
      outcomeText_answerable fun _ => parsed_defined
  | extractDependencies =>
    refine bind_answerable (fun _ => decodeAnalyzerArguments_error) fun request => ?_
    obtain ⟨v, hread, -⟩ := read_listingText grammar request.2 request.1
    exact ⟨v, hread⟩

theorem ofText_text (op : Name) : Name.ofText? op.text = some op := by
  cases op <;> decide

/-- A name that is registered runs its body. -/
theorem dispatch_text (grammar : Grammar) (op : Name) (payload : Bytes) :
    dispatch grammar op.text payload = runOperation (body grammar op payload) := by
  rw [dispatch, ofText_text]

/-! ### The three answers of an analysis -/

theorem body_extractDependencies (grammar : Grammar) {payload : Bytes} {source : Text} {dynamic : Bool}
    (h : Asks payload source dynamic) :
    body grammar .extractDependencies payload =
      .ok (listingText (Engine.analyze grammar {} dynamic source {}).1) := by
  rw [body, decodeAnalyzerArguments_ok_iff.mpr h]
  rfl

/-- An analysis answers by what the payload asks and by whether the source parses. -/
theorem extract_answers (grammar : Grammar) (payload : Bytes) :
    ∃ b v, runOperation (body grammar .extractDependencies payload) = .ok b ∧ Answers b v ∧
      ((IsListing v ∧ ∃ source dynamic, Asks payload source dynamic ∧ Parses (grammar .typescript source)) ∨
        (IsSentinel v ∧ ∃ source dynamic, Asks payload source dynamic ∧ ¬ Parses (grammar .typescript source)) ∨
        (IsRefusal v ∧ ¬ ∃ source dynamic, Asks payload source dynamic)) := by
  cases hdecode : decodeAnalyzerArguments payload with
  | error p =>
    have hbody : body grammar .extractDependencies payload = .error p := by
      rw [body, hdecode]
      rfl
    obtain ⟨b, v, hb, hv, hrefusal⟩ := runOperation_refuses hbody (decodeAnalyzerArguments_error hdecode)
    refine ⟨b, v, hb, hv, .inr (.inr ⟨hrefusal, ?_⟩)⟩
    rintro ⟨source, dynamic, hasks⟩
    rw [decodeAnalyzerArguments_ok_iff.mpr hasks] at hdecode
    cases hdecode
  | ok request =>
    obtain ⟨source, dynamic⟩ := request
    have hasks : Asks payload source dynamic := decodeAnalyzerArguments_ok_iff.mp hdecode
    have hbody := body_extractDependencies grammar hasks
    obtain ⟨v, hread, hcase⟩ := read_listingText grammar dynamic source
    refine ⟨_, v, by rw [hbody]; rfl, answers_encode hread, ?_⟩
    rcases hcase with ⟨hlisting, hparses⟩ | ⟨hsentinel, hfails⟩
    · exact .inl ⟨hlisting, source, dynamic, hasks, hparses⟩
    · exact .inr (.inl ⟨hsentinel, source, dynamic, hasks, hfails⟩)

/-- A payload asks for one thing at most. -/
theorem asks_unique {payload : Bytes} {source source' : Text} {dynamic dynamic' : Bool}
    (h : Asks payload source dynamic) (h' : Asks payload source' dynamic') : source = source' := by
  have hdecode := decodeAnalyzerArguments_ok_iff.mpr h
  rw [decodeAnalyzerArguments_ok_iff.mpr h'] at hdecode
  exact (congrArg Prod.fst (Except.ok.inj hdecode)).symm

/-- **Every request is answered.** Each operation answers all bytes whatsoever, requests or not,
and its answer is the double encoding of a value. An analysis answers with a list of
distinct strings exactly if the bytes ask for a source that parses, with the sentinel exactly
if they ask for one that does not, and with a refusal exactly if they ask for nothing. -/
theorem dispatch_answers (grammar : Grammar) (op : Name) (payload : Bytes) :
    ∃ b v, dispatch grammar op.text payload = .ok b ∧ Answers b v ∧
      (op = .extractDependencies →
        (IsListing v ↔ ∃ source dynamic, Asks payload source dynamic ∧ Parses (grammar .typescript source)) ∧
        (IsSentinel v ↔
          ∃ source dynamic, Asks payload source dynamic ∧ ¬ Parses (grammar .typescript source)) ∧
        (IsRefusal v ↔ ¬ ∃ source dynamic, Asks payload source dynamic) ∧
        ¬ (IsListing v ∧ IsSentinel v) ∧ ¬ (IsListing v ∧ IsRefusal v) ∧ ¬ (IsSentinel v ∧ IsRefusal v)) := by
  rw [dispatch_text]
  by_cases hop : op = .extractDependencies
  · subst hop
    obtain ⟨b, v, hb, hv, hcase⟩ := extract_answers grammar payload
    refine ⟨b, v, hb, hv, fun _ => ?_⟩
    have hlisted : ¬ (IsListing v ∧ IsSentinel v) := fun h => listing_not_text h.1 _ h.2
    have hunlisted : ¬ (IsListing v ∧ IsRefusal v) := fun ⟨h, _, ht⟩ => listing_not_text h _ ht
    have hrefused : ¬ (IsSentinel v ∧ IsRefusal v) := fun h => sentinel_not_refusal h.1 h.2
    -- the answer and the payload are in the same case, so each equivalence holds or fails on both sides
    rcases hcase with ⟨h, source, dynamic, hasks, hparses⟩ | ⟨h, source, dynamic, hasks, hfails⟩ | ⟨h, hnone⟩
    · refine ⟨iff_of_true h ⟨source, dynamic, hasks, hparses⟩,
        iff_of_false (fun h' => hlisted ⟨h, h'⟩) ?_,
        iff_of_false (fun h' => hunlisted ⟨h, h'⟩) fun hnone => hnone ⟨source, dynamic, hasks⟩,
        hlisted, hunlisted, hrefused⟩
      rintro ⟨source', dynamic', hasks', hfails⟩
      exact hfails (asks_unique hasks hasks' ▸ hparses)
    · refine ⟨iff_of_false (fun h' => hlisted ⟨h', h⟩) ?_,
        iff_of_true h ⟨source, dynamic, hasks, hfails⟩,
        iff_of_false (fun h' => hrefused ⟨h, h'⟩) fun hnone => hnone ⟨source, dynamic, hasks⟩,
        hlisted, hunlisted, hrefused⟩
      rintro ⟨source', dynamic', hasks', hparses⟩
      exact hfails (asks_unique hasks' hasks ▸ hparses)
    · refine ⟨iff_of_false (fun h' => hunlisted ⟨h', h⟩) ?_, iff_of_false (fun h' => hrefused ⟨h', h⟩) ?_,
        iff_of_true h hnone, hlisted, hunlisted, hrefused⟩
      · rintro ⟨source, dynamic, hasks, -⟩
        exact hnone ⟨source, dynamic, hasks⟩
      · rintro ⟨source, dynamic, hasks, -⟩
        exact hnone ⟨source, dynamic, hasks⟩
  · obtain ⟨b, v, hb, hv⟩ := runOperation_answers (body_answerable grammar op payload)
    exact ⟨b, v, hb, hv, fun h => absurd h hop⟩

/-- A request for the dependencies of one import declaration. -/
def importRequest : Bytes := Utf8.encode "\x7b\"src\":\"import 'a'\",\"dynamic\":false\x7d"

/-- The standard grammar takes the source of that request, so a list is answered. -/
theorem importRequest_listed :
    ∃ b v, dispatch Grammar.standard (Name.text .extractDependencies) importRequest = .ok b ∧
      Answers b v ∧ IsListing v := by
  obtain ⟨b, v, hb, hv, hcases⟩ :=
    dispatch_answers Grammar.standard .extractDependencies importRequest
  have hasks : Asks importRequest "import 'a'" false := decodeAnalyzerArguments_ok_iff.mp (by rfl)
  have hparses : Parses (Grammar.standard .typescript "import 'a'") := by decide +kernel
  exact ⟨b, v, hb, hv, (hcases rfl).1.mpr ⟨_, _, hasks, hparses⟩⟩

end EcmaModule.Operation
