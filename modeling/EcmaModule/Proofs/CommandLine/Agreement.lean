import EcmaModule.Proofs.CommandLine.Arguments
import EcmaModule.Proofs.CommandLine.Presentation
import EcmaModule.Proofs.Text.Utf8

/-! The command agrees with the operations.

A run on a file and an operation on its source are two ways to one parse. They use names of
their own for the source and lay the result out in their own ways, and the command has options
where a request has fields. What a run shows is told here by the parse it makes
(`runSource_parse`, `runSource_listing`). What an operation answers is told by its parse too, and
so the two are the same (`command_agrees`). -/
namespace EcmaModule.CommandLine

open Operation (Answers AsksParse Asks Carries IsListing IsSentinel gapOf serialize)
open Utf8 (Bytes)

/-! ### What a run shows -/

/-- The run succeeds exactly if there is an answer, and shows its text with two spaces a level and a
line feed behind it. Otherwise it exits with one and shows nothing. -/
structure Shows (result : Result) (Answer : Value → Prop) : Prop where
  succeeds : result.status = 0 ↔ ∃ v, Answer v
  shown : ∀ v, Answer v →
    ∃ json, serialize v (gapOf (.int 2)) = .ok (some json) ∧ result.stdout = json ++ [0x0A]
  refused : result.status ≠ 0 → result.status = 1 ∧ result.stdout = []

theorem Shows.congr {result : Result} {Answer Answer' : Value → Prop} (h : Shows result Answer)
    (hsame : ∀ v, Answer v ↔ Answer' v) : Shows result Answer' where
  succeeds := h.succeeds.trans (exists_congr hsame)
  shown v hv := h.shown v ((hsame v).mpr hv)
  refused := h.refused

/-- A run that fails shows that there is no answer. -/
theorem Shows.nothing {result : Result} {Answer : Value → Prop} (hstatus : result.status = 1)
    (hstdout : result.stdout = []) (hnone : ∀ v, ¬ Answer v) : Shows result Answer where
  succeeds := iff_of_false (by rw [hstatus]; decide) fun ⟨v, hv⟩ => hnone v hv
  shown v hv := absurd hv (hnone v)
  refused _ := ⟨hstatus, hstdout⟩

/-- A run that succeeds shows the answer there is. -/
theorem Shows.answer {result : Result} {Answer : Value → Prop} {v : Value} {json : Text}
    (hjson : serialize v indent = .ok (some json)) (hstatus : result.status = 0)
    (hstdout : result.stdout = json ++ [0x0A]) (hanswer : Answer v)
    (hone : ∀ u, Answer u → u = v) : Shows result Answer where
  succeeds := iff_of_true hstatus ⟨v, hanswer⟩
  shown u hu := ⟨json, hone u hu ▸ hjson, hstdout⟩
  refused hfailed := absurd hstatus hfailed

theorem isCyclic_strings (ts : List Text) : Operation.isCyclic (.array (ts.map .string)) = false := by
  rw [Operation.isCyclic]
  induction ts with
  | nil => rfl
  | cons t rest ih =>
    rw [List.map_cons, Operation.anyCyclic, ih]
    rfl

/-- What stands on the error stream makes no difference. -/
theorem Shows.headed {result : Result} {Answer : Value → Prop} (h : Shows result Answer) (heading : Text) :
    Shows (result.headed heading) Answer where
  succeeds := h.succeeds
  shown := h.shown
  refused := h.refused

section Run
variable (grammar : Grammar) {o : Options} (name source : Text)

/-- A module is shown, if it can be written. -/
theorem succeeded_module (hdeps : o.deps = false) {module : Value} (hdefined : module ≠ .undefined) :
    Shows (succeeded o module) fun m => m = module ∧ Operation.isCyclic m = false := by
  rw [succeeded, hdeps, if_neg Bool.false_ne_true]
  cases htext : serialize module indent with
  | error p =>
    refine .nothing rfl rfl ?_
    rintro m ⟨rfl, hcyclic⟩
    obtain ⟨json, hjson⟩ := Operation.serialize_ok_iff.mpr hcyclic
    rw [htext] at hjson
    cases hjson
  | ok json =>
    have hcyclic := Operation.serialize_ok_iff.mp ⟨json, htext⟩
    have hprint := Operation.serialize_ok hdefined hcyclic indent
    obtain rfl := Except.ok.inj (htext.symm.trans hprint)
    exact .answer htext rfl rfl ⟨rfl, hcyclic⟩ fun m hm => hm.1

/-- The list of a module's dependencies is shown. -/
theorem succeeded_listing (hdeps : o.deps = true) (module : Value) :
    Shows (succeeded o module) fun v => v = .array ((Dependency.collect o.dynamic module).map .string) := by
  rw [succeeded, hdeps, if_pos rfl]
  generalize Dependency.collect o.dynamic module = specifiers
  have htext := Operation.serialize_ok (v := .array (specifiers.map .string)) (by simp)
    (isCyclic_strings specifiers) indent
  exact .answer htext rfl rfl rfl fun v hv => hv

/-- Without `--deps` the module of the parse is shown, if it can be written. -/
theorem runSource_parse (hdeps : o.deps = false) (hjson : o.json = false) :
    Shows (runSource grammar o name source) fun m =>
      (Engine.parseModule grammar o.configuration name source {}).1 = .ok m ∧ Operation.isCyclic m = false := by
  have hparse : parseOf grammar o name source =
      Engine.parseModule grammar o.configuration name source {} := by
    rw [parseOf, sourceName, hdeps, if_neg Bool.false_ne_true]
  rw [runSource_eq, hparse]
  refine .headed ?_ _
  cases houtcome : Engine.parseModule grammar o.configuration name source {} with
  | mk outcome c =>
    cases outcome with
    | failed f =>
      refine .nothing (failed_status o c f []) (failed_silent hjson c f []) ?_
      rintro m ⟨⟨⟩, -⟩
    | ok module =>
      have hdefined : module ≠ .undefined := Operation.parsed_defined (congrArg Prod.fst houtcome)
      refine (succeeded_module hdeps hdefined).congr fun m => and_congr_left' ?_
      exact ⟨fun hm => congrArg Outcome.ok hm.symm, fun hm => (Outcome.ok.inj hm).symm⟩

/-- With `--deps` the list of the analysis is shown. -/
theorem runSource_listing (hdeps : o.deps = true) (hjson : o.json = false) :
    Shows (runSource grammar o name source) fun v => ∃ specifiers,
      (Engine.analyze grammar o.configuration o.dynamic source {}).1 = .ok specifiers ∧
        v = .array (specifiers.map .string) := by
  have hparse : Engine.parseModule grammar o.configuration
      (Engine.analysisName o.configuration.dialect) source {} = parseOf grammar o name source := by
    rw [parseOf, sourceName, hdeps, if_pos rfl]
    rfl
  rw [runSource_eq, Engine.analyze, hparse]
  refine .headed ?_ _
  obtain ⟨outcome, c⟩ := parseOf grammar o name source
  cases outcome with
  | failed f =>
    refine .nothing (failed_status o c f []) (failed_silent hjson c f []) ?_
    rintro v ⟨_, ⟨⟩, -⟩
  | ok module =>
    refine (succeeded_listing hdeps module).congr fun v => ?_
    constructor
    · rintro rfl
      exact ⟨_, rfl, rfl⟩
    · rintro ⟨_, ⟨⟩, rfl⟩
      rfl

end Run

/-! ### The arguments of a run -/

/-- The option that asks for a dialect. -/
def dialectOption : Dialect → Text
  | .javascript => "--js"
  | .typescript => "--ts"

/-- The arguments that ask for the dependencies of a file. -/
def listingArguments (dynamic : Bool) (name : Text) : List Text :=
  [Text.ofString "--ts", Text.ofString "--deps"] ++
    (if dynamic then [] else [Text.ofString "--no-dynamic"]) ++ [name]

theorem ofText_dialectOption (d : Dialect) : Argument.ofText (dialectOption d) = .dialect d := by
  cases d <;> decide

section Arguments
variable {args : List Text} {name : Text} {setting : Option Text} {d₀ : Dialect}
  (hname : name.startsWith "-" = false) (hsetting : dialectOf setting = .ok d₀)
include hname hsetting

theorem parseArguments_module {d : Dialect} (hargs : args.Perm [dialectOption d, name]) :
    parseArguments args setting = .ok {inputFile := some name, dialect := d} := by
  have hsaid : [dialectOption d, name].map Argument.ofText = [.dialect d, .file name] := by
    rw [List.map_cons, ofText_dialectOption, List.map_singleton, Argument.ofText_file hname]
  exact parseArguments_said hsetting hargs hsaid le_rfl ⟨by simp, le_rfl⟩ rfl

theorem parseArguments_listing {dynamic : Bool} (hargs : args.Perm (listingArguments dynamic name)) :
    parseArguments args setting =
      .ok {inputFile := some name, dialect := .typescript, deps := true, dynamic := dynamic} := by
  have hdeps : Argument.ofText (Text.ofString "--deps") = .deps := by decide
  have hdynamic : Argument.ofText (Text.ofString "--no-dynamic") = .noDynamic := by decide
  have hdialect : Argument.ofText (Text.ofString "--ts") = .dialect .typescript := by decide
  have hfile := Argument.ofText_file hname
  cases dynamic with
  | true =>
    have hsaid : (listingArguments true name).map Argument.ofText =
        [.dialect .typescript, .deps, .file name] := by
      simp [listingArguments, hdeps, hdialect, hfile]
    exact parseArguments_said hsetting hargs hsaid le_rfl ⟨by simp, le_rfl⟩ rfl
  | false =>
    have hsaid : (listingArguments false name).map Argument.ofText =
        [.dialect .typescript, .deps, .noDynamic, .file name] := by
      simp [listingArguments, hdeps, hdynamic, hdialect, hfile]
    exact parseArguments_said hsetting hargs hsaid le_rfl ⟨by simp, le_rfl⟩ rfl

end Arguments

/-- A run on a readable file is a run on its source. -/
theorem run_eq_runSource (grammar : Grammar) {read : Text → Except ReadFault Bytes} {args : List Text}
    {setting : Option Text} {o : Options} {name source : Text} (hargs : parseArguments args setting = .ok o)
    (hhelp : o.help = false) (hfile : o.inputFile = some name) (hsource : Text.Paired source)
    (hread : read name = .ok (Utf8.encode source)) :
    run grammar read args setting = runSource grammar o name source := by
  simp only [run, hargs, hhelp, hfile, hread, Utf8.decodeLossy_encode hsource]

/-! ### Agreement -/

/-- A parse by an operation succeeds like the one under the name of the file. -/
theorem parseAs_ok_iff (grammar : Grammar) (d : Dialect) (name source : Text) (m : Value) :
    (Engine.parseModule grammar {dialect := d} name source {}).1 = .ok m ↔
      Operation.parseAs grammar d source = .ok m := by
  have hsame (other : Text) := Engine.parseModule_anonymous grammar {dialect := d} name other source {}
  rw [← Outcome.anonymous_ok_iff]
  cases d with
  | javascript =>
    rw [hsame "input.js"]
    exact Outcome.anonymous_ok_iff
  | typescript =>
    rw [hsame "input.ts"]
    exact Outcome.anonymous_ok_iff

section Agree
variable (grammar : Grammar) (name source : Text)

/-- A run on a source shows the module that a response of the operation carries. -/
theorem runSource_carried (d : Dialect) {response : Bytes}
    (hcase : (∃ module, Operation.parseAs grammar d source = .ok module ∧ Carries response module) ∨
      ∀ module, Operation.parseAs grammar d source = .ok module → Operation.isCyclic module = true) :
    Shows (runSource grammar {inputFile := some name, dialect := d} name source) fun m =>
      Operation.parseAs grammar d source = .ok m ∧ Carries response m := by
  refine (runSource_parse grammar name source rfl rfl).congr fun m => ?_
  refine (and_congr_left' (parseAs_ok_iff grammar d name source m)).trans (and_congr_right fun hm => ?_)
  constructor
  · intro hcyclic
    rcases hcase with ⟨module, hmodule, hcarries⟩ | hall
    · rw [hm] at hmodule
      exact Outcome.ok.inj hmodule ▸ hcarries
    · rw [hall m hm] at hcyclic
      cases hcyclic
  · rintro ⟨json, hjson, -⟩
    exact Operation.serialize_ok_iff.mp ⟨json, hjson⟩

/-- A run on a source shows the list that the operation answers. -/
theorem runSource_answered (dynamic : Bool) {response : Bytes}
    (hresponse : response = Operation.encodeResult
      (Operation.listingText (Engine.analyze grammar {} dynamic source {}).1)) :
    (∃ v, Answers response v ∧ (IsListing v ∨ IsSentinel v)) ∧
      Shows (runSource grammar {inputFile := some name, deps := true, dynamic := dynamic} name source) fun u =>
        Answers response u ∧ ¬ IsSentinel u := by
  obtain ⟨v, hread, hcase⟩ := Operation.read_listingText grammar dynamic source
  obtain ⟨w, hread', hlisted, hsentinel⟩ :=
    Operation.read_listing (Engine.analyze grammar {} dynamic source {}).1
  rw [hread] at hread'
  cases hread'
  have hanswer : Answers response v := hresponse ▸ Operation.answers_encode hread
  refine ⟨⟨v, hanswer, hcase.imp And.left And.left⟩, ?_⟩
  refine (runSource_listing grammar name source rfl rfl).congr fun u => ?_
  constructor
  · rintro ⟨specifiers, hspecifiers, rfl⟩
    rw [← hlisted specifiers hspecifiers]
    refine ⟨hanswer, ?_⟩
    rw [hlisted specifiers hspecifiers]
    exact nofun
  · rintro ⟨hu, hnot⟩
    obtain rfl := Operation.answers_unique hu hanswer
    cases hlisting : (Engine.analyze grammar {} dynamic source {}).1 with
    | ok specifiers => exact ⟨specifiers, hlisting, hlisted specifiers hlisting⟩
    | failed failure => exact absurd (hsentinel failure hlisting) hnot

end Agree

/-- **The command agrees with the operations.** Let a file hold the bytes of a source without lone
surrogates, and let the environment name no grammar or one there is. With the option of a
dialect, a run on the file succeeds exactly if the operation of that dialect, asked for the
source, answers the module of its parse, and then it shows this module with two spaces a level,
and a line feed behind it.
Where the modules of a grammar are objects, the response alone tells. With the options of a
listing, with or without `--no-dynamic`, a run succeeds exactly if the analysis, asked for the
source with the flag that `--no-dynamic` clears, does not answer the sentinel, and then it shows
the list that is answered. A run that does not succeed exits with one and shows nothing. The
arguments may stand in any order. -/
theorem command_agrees (grammar : Grammar) {read : Text → Except ReadFault Bytes} {name source : Text}
    {setting : Option Text} {d₀ : Dialect} (hname : name.startsWith "-" = false) (hsource : Text.Paired source)
    (hread : read name = .ok (Utf8.encode source)) (hsetting : dialectOf setting = .ok d₀) :
    (∀ d args payload, args.Perm [dialectOption d, name] → AsksParse payload source →
      let result := run grammar read args setting
      let o := Operation.parseAs grammar d source
      ∃ response, Operation.dispatch grammar (Operation.parseName d).text payload = .ok response ∧
        Shows result (fun m => o = .ok m ∧ Carries response m) ∧
        ((∀ m, o = .ok m → ∃ fields, m = .object fields) →
          (result.status = 0 ↔ ∃ fields, Carries response (.object fields)))) ∧
    ∀ dynamic args payload, args.Perm (listingArguments dynamic name) → Asks payload source dynamic →
      ∃ response, Operation.dispatch grammar (Operation.Name.text .extractDependencies) payload = .ok response ∧
        (∃ v, Answers response v ∧ (IsListing v ∨ IsSentinel v)) ∧
        Shows (run grammar read args setting) fun u => Answers response u ∧ ¬ IsSentinel u := by
  constructor
  · intro d args payload hargs hasks result o
    have hoptions := parseArguments_module hname hsetting hargs
    have hrun : result = _ := run_eq_runSource grammar hoptions rfl rfl hsource hread
    obtain ⟨response, hresponse, hcase⟩ := Operation.outcome_response o
    have hshows := runSource_carried grammar name source d (hcase.imp id fun ⟨_, _, _, h⟩ => h)
    rw [← hrun] at hshows
    refine ⟨response, (Operation.dispatch_parse grammar d hasks).trans hresponse, hshows, fun hobject => ?_⟩
    rw [hshows.succeeds]
    constructor
    · rintro ⟨m, hm, hcarries⟩
      obtain ⟨fields, rfl⟩ := hobject m hm
      exact ⟨fields, hcarries⟩
    · rintro ⟨fields, hcarries⟩
      rcases hcase with hmodule | ⟨t, htext, -, -⟩
      · exact hmodule
      · exact absurd htext (hcarries.not_text t)
  · intro dynamic args payload hargs hasks
    have hoptions := parseArguments_listing hname hsetting hargs
    rw [run_eq_runSource grammar hoptions rfl rfl hsource hread]
    exact ⟨_, Operation.dispatch_extractDependencies grammar hasks,
      runSource_answered grammar name source dynamic rfl⟩

/-- What the standard grammar reads is an object. -/
theorem parseAs_standard {d : Dialect} {source : Text} {m : Value}
    (h : Operation.parseAs Grammar.standard d source = .ok m) : ∃ fields, m = .object fields := by
  have hparse := (parseAs_ok_iff Grammar.standard d [] source m).mpr h
  have hok := Engine.parseModule_ok_iff Grammar.standard {dialect := d} [] source (c := {}) rfl m
  have hending := (Engine.module_eq_some_iff.mp (hok.mp hparse).1).1
  simp only [Grammar.standard] at hending
  split at hending
  · next n _ _ =>
    obtain ⟨kind, extent, fields⟩ := n
    rw [← Grammar.Ending.tree.inj hending, Grammar.Node.toValue]
    exact ⟨_, rfl⟩
  · cases hending

/-- A source that only loads another one when it runs. Its module is answered and shown, and so is
the list of its dependencies, also where `--no-dynamic` leaves the only one out. -/
theorem loadingSource_agrees :
    let source : Text := "import('a')"
    let name : Text := "a.ts"
    let result (args : List Text) := run Grammar.standard (fun _ => .ok (Utf8.encode source)) args none
    (∃ response fields, Operation.dispatch Grammar.standard (Operation.parseName .javascript).text
        (Operation.parseRequest source) = .ok response ∧ Carries response (.object fields) ∧
      (result [name, "--js"]).status = 0) ∧
    ∃ response v, Operation.dispatch Grammar.standard (Operation.Name.text .extractDependencies)
        (Operation.analysisRequest source false) = .ok response ∧ Answers response v ∧ IsListing v ∧
      (result ["--no-dynamic", "--deps", name, "--ts"]).stdout = Text.ofString "[]\n" := by
  intro source name result
  have hname : name.startsWith "-" = false := by decide
  have hsource : Text.Paired source := Text.paired_ascii (by decide)
  let read (_ : Text) : Except ReadFault Bytes := .ok (Utf8.encode source)
  have hread : read name = .ok (Utf8.encode source) := rfl
  have hsetting : dialectOf none = .ok .typescript := rfl
  obtain ⟨hparse, hlisting⟩ := command_agrees Grammar.standard hname hsource hread hsetting
  constructor
  · obtain ⟨response, hresponse, -, hobject⟩ := hparse .javascript [name, "--js"] _
      (List.Perm.swap ..) (Operation.asks_parseRequest source)
    have hstatus : (result [name, "--js"]).status = 0 := by decide +kernel
    obtain ⟨fields, hcarries⟩ := (hobject fun _ => parseAs_standard).mp hstatus
    exact ⟨response, fields, hresponse, hcarries, hstatus⟩
  · obtain ⟨response, hresponse, ⟨v, hanswer, hcase⟩, hshows⟩ := hlisting false
      ["--no-dynamic", "--deps", name, "--ts"] _ (by decide) (Operation.asks_analysisRequest source false)
    have hstdout : (result ["--no-dynamic", "--deps", name, "--ts"]).stdout = Text.ofString "[]\n" := by
      decide +kernel
    refine ⟨response, v, hresponse, hanswer, hcase.resolve_right fun hsentinel => ?_, hstdout⟩
    have hstatus : (result ["--no-dynamic", "--deps", name, "--ts"]).status = 0 := by decide +kernel
    obtain ⟨u, hu, hnot⟩ := hshows.succeeds.mp hstatus
    exact hnot (Operation.answers_unique hu hanswer ▸ hsentinel)

end EcmaModule.CommandLine
