import EcmaModule.Proofs.Engine.FileName
import EcmaModule.Proofs.Json.Bytes
import EcmaModule.Proofs.Operation.Answer

/-! Where a parse and an analysis agree.

The two operations on TypeScript run one parse each, under names of their own, and a parse
does not depend on its name. So they decide alike about a source: the analysis answers the
sentinel exactly if the parse answers a message, and otherwise it lists the dependencies of
the module that the parse writes (`typescript_operations_agree`). Every source can be
asked about (`asks_analysisRequest`), a lone surrogate being written as an escape. -/
namespace EcmaModule.Operation

open Utf8 (Bytes)

/-! ### Requests -/

/-- The bytes ask for the parse of a source: they are the text of an object with a source
that is a string. -/
def AsksParse (payload : Bytes) (source : Text) : Prop :=
  ∃ t fields, Utf8.decode? payload = some t ∧ Json.read? t = some (.object fields) ∧
    Value.lookup fields "src" = some (.string source)

theorem decodeParseArguments_ok_iff {payload : Bytes} {source : Text} :
    decodeParseArguments payload = .ok source ↔ AsksParse payload source := by
  unfold decodeParseArguments AsksParse
  rw [bind_ok_iff]
  constructor
  · rintro ⟨request, hobject, hsource⟩
    obtain ⟨⟨t, hbytes, hread⟩, -⟩ := decodeObject_ok_iff.mp hobject
    obtain ⟨fields, rfl, hstring⟩ := stringField_ok_iff.mp hsource
    exact ⟨t, fields, hbytes, hread, hstring⟩
  · rintro ⟨t, fields, hbytes, hread, hstring⟩
    exact ⟨_, decodeObject_ok_iff.mpr ⟨⟨t, hbytes, hread⟩, rfl⟩, stringField_ok_iff.mpr ⟨fields, rfl, hstring⟩⟩

/-- The request for the parse of a source. -/
def parseRequest (source : Text) : Bytes := Utf8.encode (Json.compact (.object [("src", .string source)]))

/-- The request for the dependencies of a source. -/
def analysisRequest (source : Text) (dynamic : Bool) : Bytes :=
  Utf8.encode (Json.compact (.object [("src", .string source), ("dynamic", .bool dynamic)]))

theorem asks_parseRequest (source : Text) : AsksParse (parseRequest source) source :=
  ⟨_, _, Json.decode_printObject Text.paired_nil _, Json.read_print Json.blank_nil _, rfl⟩

theorem asks_analysisRequest (source : Text) (dynamic : Bool) :
    Asks (analysisRequest source dynamic) source dynamic :=
  ⟨_, _, Json.decode_printObject Text.paired_nil _, Json.read_print Json.blank_nil _, rfl, rfl⟩

/-! ### Responses -/

/-- The operation that parses a source of a dialect. -/
def parseName : Dialect → Name
  | .javascript => .parse
  | .typescript => .parseTypeScript

/-- The parse that this operation makes. -/
def parseAs (grammar : Grammar) : Dialect → Text → Outcome
  | .javascript => Engine.parseJavaScript grammar
  | .typescript => Engine.parseTypeScript grammar

section Request
variable (grammar : Grammar) {payload : Bytes} {source : Text} {dynamic : Bool}

theorem dispatch_parse (d : Dialect) (h : AsksParse payload source) :
    dispatch grammar (parseName d).text payload = runOperation (outcomeText (parseAs grammar d source)) := by
  rw [dispatch_text]
  cases d with
  | javascript =>
    rw [parseName, body, decodeParseArguments_ok_iff.mpr h]
    rfl
  | typescript =>
    rw [parseName, body, decodeParseArguments_ok_iff.mpr h]
    rfl

theorem dispatch_parseTypeScript (h : AsksParse payload source) :
    dispatch grammar (Name.text .parseTypeScript) payload =
      runOperation (outcomeText (Engine.parseTypeScript grammar source)) :=
  dispatch_parse grammar .typescript h

theorem dispatch_extractDependencies (h : Asks payload source dynamic) :
    dispatch grammar (Name.text .extractDependencies) payload =
      .ok (encodeResult (listingText (Engine.analyze grammar {} dynamic source {}).1)) := by
  rw [dispatch_text, body_extractDependencies grammar h]
  rfl

end Request

theorem serialize_error {v : Value} {gap : Text} {p : Problem} (h : serialize v gap = .error p) :
    Unserializable p := by
  unfold serialize at h
  split at h
  · exact ⟨_, (Except.error.inj h).symm⟩
  · split at h <;> cases h

theorem serialize_ok_iff {v : Value} {gap : Text} :
    (∃ json, serialize v gap = .ok json) ↔ isCyclic v = false := by
  unfold serialize
  cases isCyclic v with
  | true => exact iff_of_false (fun ⟨_, h⟩ => nomatch h) nofun
  | false =>
    refine iff_of_true ?_ rfl
    rw [if_neg Bool.false_ne_true]
    split
    · exact ⟨_, rfl⟩
    · exact ⟨_, rfl⟩

/-- The response is the text of a module, if the module has one. -/
def Carries (response : Bytes) (module : Value) : Prop :=
  ∃ json, serialize module [] = .ok json ∧ decodeResult response = .ok (json.getD [])

/-- A response carries the module of the outcome, or it is a text, that of the failure if there is
one, and the outcome has no module that can be written. -/
theorem outcome_response (o : Outcome) :
    ∃ response, runOperation (outcomeText o) = .ok response ∧
      ((∃ module, o = .ok module ∧ Carries response module) ∨
        ∃ t, Answers response (.string t) ∧ (∀ failure, o = .failed failure → t = failure.message) ∧
          ∀ module, o = .ok module → isCyclic module = true) := by
  cases o with
  | failed failure =>
    refine ⟨_, rfl, .inr ⟨failure.message, answers_encode (Json.read_quote _), ?_, nofun⟩⟩
    rintro _ ⟨⟩
    rfl
  | ok module =>
    rw [outcomeText]
    cases htext : serialize module [] with
    | ok json => exact ⟨_, rfl, .inl ⟨module, rfl, json, htext, decode_encode_result _⟩⟩
    | error p =>
      obtain ⟨m, rfl⟩ := serialize_error htext
      refine ⟨_, rfl, .inr ⟨_, answers_encode (Json.read_quote _), nofun, ?_⟩⟩
      rintro _ ⟨⟩
      refine Bool.of_not_eq_false fun hcyclic => ?_
      obtain ⟨json, hjson⟩ := serialize_ok_iff.mpr hcyclic
      rw [htext] at hjson
      cases hjson

/-- An outcome is answered: a failure with its message, a module with its text, if it has one. -/
theorem outcome_answered (o : Outcome) :
    ∃ response, runOperation (outcomeText o) = .ok response ∧
      (∀ failure, o = .failed failure → Answers response (.string failure.message)) ∧
      ∀ module json, o = .ok module → serialize module [] = .ok (some json) →
        decodeResult response = .ok json := by
  obtain ⟨response, hresponse, ⟨_, rfl, _, hcarried, hdecode⟩ | ⟨t, ht, hmessage, hcyclic⟩⟩ := outcome_response o
  · refine ⟨response, hresponse, nofun, ?_⟩
    rintro _ json ⟨⟩ hjson
    rw [hjson] at hcarried
    cases hcarried
    exact hdecode
  · refine ⟨response, hresponse, fun failure hfailed => hmessage failure hfailed ▸ ht, ?_⟩
    intro module json hok hjson
    have hwritten := serialize_ok_iff.mp ⟨_, hjson⟩
    rw [hcyclic module hok] at hwritten
    cases hwritten

/-- An object that can be written is not answered with a text. -/
theorem object_not_text {fields : Value.Fields} (hcyclic : isCyclic (.object fields) = false) {response : Bytes}
    (h : ∀ json, serialize (.object fields) [] = .ok (some json) → decodeResult response = .ok json)
    (t : Text) : ¬ Answers response (.string t) := by
  have hjson : serialize (.object fields) [] = .ok (some (Json.compact (.object fields))) := by
    unfold serialize
    rw [hcyclic]
    rfl
  rintro ⟨json, hdecode, hread⟩
  rw [h _ hjson] at hdecode
  rw [← Except.ok.inj hdecode, Json.compact, Json.read_print Json.blank_nil, Json.carried] at hread
  cases hread

/-- A response that carries an object is no text. -/
theorem Carries.not_text {response : Bytes} {fields : Value.Fields} (h : Carries response (.object fields))
    (t : Text) : ¬ Answers response (.string t) := by
  obtain ⟨json, hjson, hdecode⟩ := h
  have hcyclic := serialize_ok_iff.mp ⟨json, hjson⟩
  refine object_not_text hcyclic (fun json' hjson' => ?_) t
  rw [hjson'] at hjson
  rw [hdecode, ← Except.ok.inj hjson]
  rfl

theorem answers_unique {response : Bytes} {u v : Value} (hu : Answers response u) (hv : Answers response v) :
    u = v := by
  obtain ⟨json, hdecode, hread⟩ := hu
  obtain ⟨json', hdecode', hread'⟩ := hv
  rw [hdecode] at hdecode'
  cases hdecode'
  rw [hread] at hread'
  exact Option.some.inj hread'

/-! ### Agreement -/

/-- **The operations on TypeScript agree.** Every source can be asked about, with either flag.
Whatever bytes ask for its parse and whatever bytes ask for its dependencies, both are
answered. The analysis answers the sentinel exactly if the parse has failed, and then the
parse answers the message of the failure; so the flag has no say in this. Otherwise the
parse answers the text of its module, and the analysis answers the dependencies of that
module. If the module is an object that can be written, its answer is no text, and the two
answers alone tell the cases apart. Behind this, parses of a source that start from one
context under different names come to one outcome, but for the files of its records. -/
theorem typescript_operations_agree (grammar : Grammar) :
    (∀ source, AsksParse (parseRequest source) source ∧
      ∀ dynamic, Asks (analysisRequest source dynamic) source dynamic) ∧
    (∀ source payload, AsksParse payload source →
      let o := Engine.parseTypeScript grammar source
      ∃ parsed, dispatch grammar (Name.text .parseTypeScript) payload = .ok parsed ∧
        ∀ dynamic request, Asks request source dynamic →
          ∃ listed v, dispatch grammar (Name.text .extractDependencies) request = .ok listed ∧
            Answers listed v ∧
            (IsSentinel v ↔ ∃ failure, o = .failed failure ∧ Answers parsed (.string failure.message)) ∧
            (¬ IsSentinel v → ∃ module, o = .ok module ∧
              (∀ json, serialize module [] = .ok (some json) → decodeResult parsed = .ok json) ∧
              v = .array ((Dependency.collect dynamic module).map .string)) ∧
            ((∀ module, o = .ok module → isCyclic module = false ∧ ∃ fields, module = .object fields) →
              (IsSentinel v ↔ ∃ t, Answers parsed (.string t)))) ∧
    ∀ config name name' source c,
      (Engine.parseModule grammar config name source c).1.anonymous =
        (Engine.parseModule grammar config name' source c).1.anonymous := by
  refine ⟨fun source => ⟨asks_parseRequest source, asks_analysisRequest source⟩, ?_,
    Engine.parseModule_anonymous grammar⟩
  intro source payload hparse o
  obtain ⟨parsed, hparsed, hmessage, htext⟩ := outcome_answered o
  refine ⟨parsed, (dispatch_parseTypeScript grammar hparse).trans hparsed, ?_⟩
  intro dynamic request hasks
  obtain ⟨v, hread, hlisting, hsentinel⟩ := read_listing (Engine.analyze grammar {} dynamic source {}).1
  refine ⟨_, v, dispatch_extractDependencies grammar hasks, answers_encode hread, ?_⟩
  have hnamed := Engine.analyze_anonymous grammar {} dynamic "input.ts" source {}
  cases ho : o with
  | failed failure =>
    obtain ⟨_, hfailed⟩ := hnamed.2 failure ho
    have hv : IsSentinel v := hsentinel _ hfailed
    have hanswer := hmessage failure ho
    exact ⟨iff_of_true hv ⟨failure, rfl, hanswer⟩, fun hnot => absurd hv hnot,
      fun _ => iff_of_true hv ⟨_, hanswer⟩⟩
  | ok module =>
    have hv := hlisting _ (hnamed.1 module ho)
    have hnot : ¬ IsSentinel v := by
      rw [hv]
      exact nofun
    refine ⟨iff_of_false hnot nofun, fun _ => ⟨module, rfl, fun json => htext module json ho, hv⟩, ?_⟩
    intro hobject
    obtain ⟨hcyclic, fields, rfl⟩ := hobject module rfl
    exact iff_of_false hnot fun ⟨t, ht⟩ => object_not_text hcyclic (fun json => htext _ json ho) t ht

/-- A lone surrogate, which a grammar complains about twice, is refused by both operations. -/
theorem refusedSource_agree :
    let grammar : Grammar := fun _ _ => ⟨[.complaint 0 "odd", .complaint 1 "worse"], .tree (.object [])⟩
    let source : Text := [0xD800]
    ∃ parsed, dispatch grammar (Name.text .parseTypeScript) (parseRequest source) = .ok parsed ∧
      ∀ dynamic, ∃ listed v,
        dispatch grammar (Name.text .extractDependencies) (analysisRequest source dynamic) = .ok listed ∧
          Answers listed v ∧ IsSentinel v ∧ Answers parsed (.string "odd,worse") := by
  intro grammar source
  obtain ⟨hrequests, hagree, -⟩ := typescript_operations_agree grammar
  obtain ⟨parsed, hparsed, hlisted⟩ := hagree source _ (hrequests source).1
  refine ⟨parsed, hparsed, fun dynamic => ?_⟩
  obtain ⟨listed, v, hanswered, hv, hsentinel, hmodule, -⟩ := hlisted dynamic _ ((hrequests source).2 dynamic)
  have hrefused : IsSentinel v := by
    by_contra hnot
    obtain ⟨module, hok, -⟩ := hmodule hnot
    cases hok
  obtain ⟨failure, hfailed, hmessage⟩ := hsentinel.mp hrefused
  have hjoined : failure.message = Text.ofString "odd,worse" := by
    cases hfailed
    decide +kernel
  exact ⟨listed, v, hanswered, hv, hrefused, hjoined ▸ hmessage⟩

end EcmaModule.Operation
