import EcmaModule.Proofs.Engine.Outcome

/-! The name of a file in its parse.

A parse writes the name of its file into the records it raises, and makes no other use of it.
So two parses of a source that start from one context under different names come to the same
outcome, but for what the records tell about their files (`parseModule_anonymous`). -/
namespace EcmaModule

/-! ### Without files -/

/-- A record that does not tell its file. -/
def Record.anonymous (r : Record) : Record := {r with file := []}

/-- An outcome whose records do not tell their files. -/
def Outcome.anonymous : Outcome → Outcome
  | .ok module => .ok module
  | .failed f => .failed ⟨f.diagnostics.map Record.anonymous⟩

theorem Outcome.anonymous_ok_iff {o : Outcome} {module : Value} :
    o.anonymous = .ok module ↔ o = .ok module := by
  cases o <;> simp [anonymous]

namespace Engine

theorem verdict_anonymous (records : List Record) (ending : Grammar.Ending) :
    (verdict records ending).anonymous = verdict (records.map Record.anonymous) ending := by
  unfold verdict
  cases ending.module? with
  | none => rfl
  | some module =>
    have herror : (records.map Record.anonymous).any (fun r => r.severity == .error) =
        records.any fun r => r.severity == .error := List.any_map
    simp only [herror]
    split <;> rfl

/-! ### Records of a renamed file -/

theorem resolveAll_named (f : SourceFile) (name : Text) (asked : List Int) :
    ({f with name := name} : SourceFile).resolveAll asked = {f.resolveAll asked with name := name} := by
  induction asked generalizing f with
  | nil => rfl
  | cons index rest ih => exact ih (f.resolve index)

/-- Acts in a renamed file leave the same records behind, but for the name. -/
theorem ofActs_anonymous (f : SourceFile) (name : Text) (acts : List Act) :
    (Transcript.ofActs {f with name := name} acts).records.map Record.anonymous =
      (Transcript.ofActs f acts).records.map Record.anonymous := by
  induction acts generalizing f with
  | nil => rfl
  | cons a rest ih =>
    have hact : (Transcript.ofAct {f with name := name} a).records.map Record.anonymous =
        (Transcript.ofAct f a).records.map Record.anonymous := by
      cases a <;> rfl
    show (_ ++ (Transcript.ofActs _ rest).records).map _ = (_ ++ (Transcript.ofActs _ rest).records).map _
    rw [List.map_append, List.map_append, hact, resolveAll_named, ih]

/-- **A parse does not depend on the name of its file**, in any context, but for the file that
its records tell. -/
theorem parseModule_anonymous (grammar : Grammar) (config : Configuration) (name name' source : Text)
    (c : Context) :
    (parseModule grammar config name source c).1.anonymous =
      (parseModule grammar config name' source c).1.anonymous := by
  let run := grammar config.dialect source
  have hraised : (Transcript.ofRun name source config.dynamicImport run).records.map Record.anonymous =
      (Transcript.ofRun name' source config.dynamicImport run).records.map Record.anonymous :=
    ofActs_anonymous (.create name' source 0) name (Act.ofRun config.dynamicImport run)
  rw [parseModule_reported, parseModule_reported, verdict_anonymous, verdict_anonymous]
  unfold Pipeline.reported
  split <;> rw [List.map_append, List.map_append, hraised]

/-- An analysis decides like a parse under any name, and lists that parse's module. -/
theorem analyze_anonymous (grammar : Grammar) (config : Configuration) (dynamic : Bool) (name source : Text)
    (c : Context) :
    let parsed := (parseModule grammar config name source c).1
    let listed := (analyze grammar config dynamic source c).1
    (∀ module, parsed = .ok module → listed = .ok (Dependency.collect dynamic module)) ∧
      ∀ failure, parsed = .failed failure → ∃ failure', listed = .failed failure' := by
  intro parsed listed
  let named := (parseModule grammar config (analysisName config.dialect) source c).1
  have hnames : parsed.anonymous = named.anonymous :=
    parseModule_anonymous grammar config name (analysisName config.dialect) source c
  constructor
  · intro module hok
    have hnamed : named = .ok module :=
      Outcome.anonymous_ok_iff.mp (hnames ▸ Outcome.anonymous_ok_iff.mpr hok)
    exact congrArg (listing dynamic) hnamed
  · intro failure hfailed
    cases hnamed : named with
    | failed failure' => exact ⟨failure', congrArg (listing dynamic) hnamed⟩
    | ok module =>
      have hok : parsed = .ok module :=
        Outcome.anonymous_ok_iff.mp (hnames ▸ Outcome.anonymous_ok_iff.mpr hnamed)
      rw [hfailed] at hok
      cases hok

end Engine

end EcmaModule
