import EcmaModule.Proofs.Comment
import EcmaModule.Proofs.Engine.Outcome
import EcmaModule.Proofs.Session.Reached

/-! How far the history of a session reaches into a parse.

A parse reads its own file, which is new, and the records that are held back. Without
held records nothing a session did before makes a difference (`parseModule_isolated`).
With them, the parse takes them for its own: they lead the diagnostics of a failure, and
a held error makes a parse fail that raised nothing (`parseModule_attribution`). -/
namespace EcmaModule.Session

open Engine

/-! ### The new file and those before it -/

/-- The new file has the comments of the transcript, provided none bears its number. -/
theorem parsed_comments (t : Transcript) (name source : Text) {c : Context}
    (h : ∀ e ∈ c.comments.entries, ∀ n, e.1 = some n → n < c.sources.files.length) :
    (parsed t name source c).comments.forFile c.sources.files.length =
      t.comments.foldl CommentStore.keep [] := by
  have habsent : c.comments.ofFile (some c.sources.files.length) = [] :=
    CommentStore.ofFile_of_absent fun e he heq => Nat.lt_irrefl _ (h e he _ heq)
  have hkept := CommentStore.ofFile_addAll c.comments (some c.sources.files.length) t.comments
  rw [habsent] at hkept
  exact hkept

section Earlier
variable (t : Transcript) (name source : Text) (c : Context) {file : Nat}

theorem parsed_file {f : SourceFile} (hf : c.sources.files[file]? = some f) :
    (parsed t name source c).sources.files[file]? = some f := by
  rw [parsed_files, List.getElem?_append_left (List.getElem?_eq_some_iff.mp hf).1]
  exact hf

/-- Comments that bear the number of an earlier file stay as they are. -/
theorem parsed_comments_other (h : file < c.sources.files.length) :
    (parsed t name source c).comments.forFile file = c.comments.forFile file := by
  have hother : some c.sources.files.length ≠ some file := fun heq =>
    Nat.lt_irrefl _ (Option.some.inj heq ▸ h)
  exact CommentStore.ofFile_addAll_other c.comments hother t.comments

end Earlier

/-- **What a session did before does not show in a parse**, as long as nothing is held back.
The outcome is that of a fresh context, and so are the new file, but for where it starts,
and its comments. -/
theorem parseModule_isolated (grammar : Grammar) (config : Configuration) (name source : Text)
    {c : Context} (hreached : Reached c) (hheld : c.pipeline.pending = []) :
    let alone := parseModule grammar config name source (Context.fresh {})
    let after := parseModule grammar config name source c
    after.1 = alone.1 ∧
      (∃ f : SourceFile, f.name = name ∧ f.source = source ∧ alone.2.sources.files = [f] ∧
        after.2.sources.files = c.sources.files ++ [{f with startPos := c.sources.nextStart}]) ∧
      after.2.comments.forFile c.sources.files.length = alone.2.comments.forFile 0 := by
  intro alone after
  let t := Transcript.ofRun name source config.dynamicImport (grammar config.dialect source)
  let ending := (grammar config.dialect source).ending
  have halone : alone = (verdict t.records ending, parsed t name source (Context.fresh {})) :=
    parseModule_eq grammar config name source (Pipeline.orderly_of_empty rfl)
  have hafter : after = (verdict t.records ending, parsed t name source c) := by
    have := parseModule_eq grammar config name source (Pipeline.orderly_of_empty hheld)
    rwa [hheld] at this
  rw [halone, hafter]
  refine ⟨rfl, ?_, ?_⟩
  · obtain ⟨cursor, hresolved⟩ := SourceFile.resolveAll_eq (SourceFile.create name source 0) t.asked
    refine ⟨(SourceFile.create name source 0).resolveAll t.asked, ?_, ?_, ?_, ?_⟩
    · rw [hresolved]
      rfl
    · rw [hresolved]
      rfl
    · rw [parsed_files, hresolved]
      rfl
    · exact parsed_files t name source c
  · have hfresh := parsed_comments t name source (fresh_tidy {}).numbered
    exact (parsed_comments t name source hreached.tidy.numbered).trans hfresh.symm

/-- A parse behind one that failed while records were held back. -/
theorem isolated_behindFault :
    let broken : Grammar := fun _ _ => ⟨[.complaint 0 "odd"], .thrown (.other "fault")⟩
    let c := (step broken (Context.fresh {dontBufferDiagnostics := false})
      (.parse "a.js" "x" {} .library)).2
    let grammar : Grammar := fun _ source => ⟨[.comment false source 0 2, .complaint 1 "odd"], .tree .null⟩
    Reached c ∧ c.pipeline.pending = [] ∧ c.pipeline.buffer.length = 2 ∧
      (parseModule grammar {} "b.js" "//" c).1 =
        (parseModule grammar {} "b.js" "//" (Context.fresh {})).1 := by
  intro broken c grammar
  have hreached : Reached c := .step broken _ (.fresh _)
  have hheld : c.pipeline.pending = [] := rfl
  have hbuffer : c.pipeline.buffer.length = 2 := by decide
  exact ⟨hreached, hheld, hbuffer, (parseModule_isolated grammar {} "b.js" "//" hreached hheld).1⟩

/-! ### Records held back -/

/-- An outcome of a parse reports what the parse raised and nothing else: a failure is due
to an error among it, or to a grammar that returned undefined, and has just that for diagnostics. -/
def ReportsOnly (raised : List Record) (ending : Grammar.Ending) : Outcome → Prop
  | .ok _ => True
  | .failed failure =>
    ((∃ r ∈ raised, r.severity = .error) ∨ ending = .tree .undefined) ∧ failure.diagnostics = raised

/-- Held records make no difference to what an outcome reports only if it is a success: nothing was
raised, and none of them is an error. -/
theorem reportsOnly_verdict_iff {held raised : List Record} {ending : Grammar.Ending}
    (herror : ∀ r ∈ raised, r.severity = .error)
    (hthrown : ∀ what, ending = .thrown what → raised ≠ []) :
    ReportsOnly raised ending (verdict (held ++ raised) ending) ↔
      held = [] ∨ raised = [] ∧ ending ≠ .tree .undefined ∧ ∀ r ∈ held, r.severity ≠ .error := by
  cases ho : verdict (held ++ raised) ending with
  | ok module =>
    obtain ⟨hmodule, hraised, hnone⟩ := (verdict_raised_ok_iff herror).mp ho
    refine iff_of_true trivial (.inr ⟨hraised, ?_, hnone⟩)
    rintro rfl
    cases hmodule
  | failed failure =>
    obtain ⟨hdiagnostics, hfail⟩ := (verdict_raised_failed_iff herror hthrown).mp ho
    constructor
    · rintro ⟨_, hown⟩
      rw [hdiagnostics] at hown
      exact .inl (List.append_left_eq_self.mp hown)
    · rintro (rfl | ⟨rfl, hdefined, hnone⟩)
      · refine ⟨?_, hdiagnostics⟩
        rcases hfail with hne | hundefined | ⟨r, hr, _⟩
        · obtain ⟨r, hr⟩ := List.exists_mem_of_ne_nil _ hne
          exact .inl ⟨r, hr, herror r hr⟩
        · exact .inr hundefined
        · exact absurd hr List.not_mem_nil
      · rcases hfail with hne | hundefined | ⟨r, hr, hsevere⟩
        · exact absurd rfl hne
        · exact absurd hundefined hdefined
        · exact absurd hsevere (hnone r hr)

/-- **Which records a parse takes for its own.** A parse raises one record for each notice of
its run, but its failure carries the held records too, ahead of them, and a held error is
enough to make it fail. So an outcome reports what its parse raised and nothing else
exactly if nothing was held, or no error was held and nothing raised; a handler that
forwards at once is always on the safe side. A grammar that returns undefined fails its parse
without an error, and then what was held is carried too. -/
theorem parseModule_attribution (grammar : Grammar) (config : Configuration) (name source : Text)
    {c : Context} (hreached : Reached c) :
    let run := grammar config.dialect source
    let held := c.pipeline.pending
    ∃ o c' raised, parseModule grammar config name source c = (o, c') ∧
      List.Forall₂ (Notice.RecordedAs name source) (notices config.dynamicImport run) raised ∧
      c'.pipeline.buffer = c.pipeline.buffer ++ held ++ raised ∧ c'.pipeline.pending = [] ∧
      (∀ failure, o = .failed failure ↔ failure.diagnostics = held ++ raised ∧
        (raised ≠ [] ∨ run.ending = .tree .undefined ∨ ∃ r ∈ held, r.severity = .error)) ∧
      (ReportsOnly raised run.ending o ↔
        held = [] ∨ raised = [] ∧ run.ending ≠ .tree .undefined ∧ ∀ r ∈ held, r.severity ≠ .error) ∧
      (c.pipeline.flags.dontBufferDiagnostics = true → ReportsOnly raised run.ending o) := by
  intro run held
  have horderly := hreached.tidy.orderly
  obtain ⟨raised, c', hparse, hrecorded, herror, hthrown, hpipeline⟩ :=
    parseModule_raised grammar config name source horderly
  have honly : ReportsOnly raised run.ending (verdict (held ++ raised) run.ending) ↔ _ :=
    reportsOnly_verdict_iff herror hthrown
  refine ⟨_, c', raised, hparse, hrecorded, ?_, ?_, fun failure => ?_, honly, fun hforward => ?_⟩
  · rw [hpipeline]
  · rw [hpipeline]
  · exact verdict_raised_failed_iff herror hthrown
  · exact honly.mpr (.inl (horderly hforward))

/-- An error that was held back fails a parse that raises nothing. -/
theorem heldError_failsParse :
    let own : Grammar := fun _ _ => ⟨[], .tree .null⟩
    let held : Record := ⟨"E_HELD", .error, "held back", "earlier.js", ⟨0, 0⟩, ⟨1, 0⟩, []⟩
    let c := (step own (Context.fresh {dontBufferDiagnostics := false}) (.emit held)).2
    Reached c ∧ notices true (own .javascript []) = [] ∧
      ∃ failure, (parseModule own ⟨.javascript, true⟩ "later.js" [] c).1 = .failed failure ∧
        failure.diagnostics = [held] ∧ ¬ ReportsOnly [] (own .javascript []).ending (.failed failure) := by
  intro own held c
  have hreached : Reached c := .step own _ (.fresh _)
  obtain ⟨o, c', raised, hparse, hrecorded, _, _, hfailed, honly, _⟩ :=
    parseModule_attribution own ⟨.javascript, true⟩ "later.js" [] hreached
  obtain rfl : raised = [] := List.forall₂_nil_left_iff.mp hrecorded
  have hfailure : o = .failed ⟨[held]⟩ :=
    (hfailed _).mpr ⟨rfl, .inr (.inr ⟨held, List.mem_singleton_self held, rfl⟩)⟩
  refine ⟨hreached, rfl, ⟨[held]⟩, by rw [hparse, hfailure], rfl, fun ⟨_, hown⟩ => ?_⟩
  exact List.cons_ne_nil held [] hown

end EcmaModule.Session
