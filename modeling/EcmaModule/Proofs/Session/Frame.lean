import EcmaModule.Proofs.Engine.Continuation
import EcmaModule.Proofs.Session.Isolation
import EcmaModule.Session

/-! What a parse leaves alone.

All files of a context share one pipeline, one table of names and one store of comments, and
every file keeps a cursor that its next offset is counted from. Still a parse only appends:
a file behind those that were there, and records, names and comments behind what was there
(`call_appends`). The files that were there keep their cursors, and from then on a file is
touched by those steps alone that ask for its offsets (`run_file`); so no later offset of an
earlier file can tell whether the parse took place. -/
namespace EcmaModule.Session

open Engine

/-! ### Calls -/

/-- The context behind a call that parses one source: a plain parse, a parse whose continuation
leaves the context alone, whatever it throws or returns, or an analysis. -/
inductive Called (c : Context) : (name source : Text) → Context → Prop where
  | parse (grammar : Grammar) (config : Configuration) (name source : Text) :
    Called c name source (parseModule grammar config name source c).2
  | parseThen {ε α : Type} (grammar : Grammar) (config : Configuration) (name source : Text)
    (continuation : Outcome → Context → Except ε α × Context)
    (halone : let plain := parseModule grammar config name source c
      let seen : Context := {plain.2 with atoms := plain.2.atoms.opened}
      (continuation plain.1 seen).2 = seen) :
    Called c name source (parseThen grammar config name source continuation c).2
  | analysis (grammar : Grammar) (config : Configuration) (dynamic : Bool) (source : Text) :
    Called c (analysisName config.dialect) source (analyze grammar config dynamic source c).2

variable {c c' : Context} {name source : Text}

/-- Every call leaves the transcript of a run. -/
theorem Called.eq_parsed (h : Called c name source c') :
    ∃ t : Transcript, (∀ r ∈ t.records, r.severity = .error) ∧ c' = parsed t name source c := by
  have hplain (grammar : Grammar) (config : Configuration) (name source : Text) :
      ∃ t : Transcript, (∀ r ∈ t.records, r.severity = .error) ∧
        (parseModule grammar config name source c).2 = parsed t name source c :=
    ⟨_, Transcript.ofRun_error name source config.dynamicImport _,
      congrArg Prod.snd (parseModule_reported grammar config name source c)⟩
  cases h with
  | parse grammar config => exact hplain grammar config name source
  | parseThen grammar config _ _ continuation halone =>
    rw [parseThen_alone grammar config name source c continuation halone]
    exact hplain grammar config name source
  | analysis grammar config dynamic => exact hplain grammar config _ source

/-! ### What is appended -/

section Parsed
variable (t : Transcript) (name source : Text) (c : Context)

theorem parsed_names : c.atoms.names <+: (parsed t name source c).atoms.names :=
  Atoms.foldl_insert_extends t.names c.atoms

theorem parsed_buffer (ht : ∀ r ∈ t.records, r.severity = .error) :
    c.pipeline.buffer <+: (parsed t name source c).pipeline.buffer := by
  have hflush : (parsed t name source c).pipeline = _ := Pipeline.flush_errors ht
  rw [hflush]
  exact List.prefix_append _ _

end Parsed

/-! ### Files in a session -/

mutual

/-- The indices whose offsets a step asks of a file, its own steps included. -/
def askedBy (file : Nat) : Step → List Int
  | .byteOffset n index => if n = file then [index] else []
  | .parseThen _ _ _ _ steps => askedByAll file steps
  | .enter steps _ => askedByAll file steps
  | _ => []

def askedByAll (file : Nat) : List Step → List Int
  | [] => []
  | s :: rest => askedBy file s ++ askedByAll file rest

end

section File
variable (own : Grammar) {file : Nat} {f : SourceFile}

theorem register_file (grammar : Grammar) (config : Configuration) (name source : Text)
    (hf : c.sources.files[file]? = some f) :
    (register grammar config name source c).2.sources.files[file]? = some f := by
  rw [register_reported]
  exact parsed_file _ name source c hf

theorem withFile_sources (n : Nat) {answer : SourceFile → Answer × Context}
    (h : ∀ f, (answer f).2.sources = c.sources) : (withFile c n answer).2.sources = c.sources := by
  unfold withFile
  cases c.sources.files[n]? with
  | none => rfl
  | some f => exact h f

theorem resolve_file (n : Nat) (index : Int) (hf : c.sources.files[file]? = some f) :
    (withFile c n fun _ => let (byte, c) := resolve c n index; (.number byte, c)).2.sources.files[file]? =
      some (f.resolveAll (if n = file then [index] else [])) := by
  by_cases hn : n = file
  · subst hn
    simp [withFile, resolve, SourceMap.modify, hf, SourceFile.resolveAll]
  · rw [if_neg hn]
    unfold withFile
    cases c.sources.files[n]? with
    | none => exact hf
    | some g => simp [resolve, SourceMap.modify, hn, hf, SourceFile.resolveAll]

/-- A step without steps of its own asks a file for its offsets, or leaves it alone. -/
theorem simple_file (s : Step) (hparse : ∀ name source config origin steps,
      s ≠ .parseThen name source config origin steps)
    (henter : ∀ steps throwing, s ≠ .enter steps throwing) (hf : c.sources.files[file]? = some f) :
    (simple own c s).2.sources.files[file]? = some (f.resolveAll (askedBy file s)) := by
  cases s with
  | parse name source config origin => exact register_file _ config name source hf
  | parseThrow name source config origin message => exact register_file _ config name source hf
  | analyze source config dynamic origin => exact register_file _ config _ source hf
  | byteOffset n index => exact resolve_file n index hf
  | newFile name source =>
    show (c.sources.files ++ [_])[file]? = some f
    rw [List.getElem?_append_left (List.getElem?_eq_some_iff.mp hf).1]
    exact hf
  | position n index =>
    have hsame : (simple own c (.position n index)).2.sources = c.sources :=
      withFile_sources n fun _ => rfl
    rw [hsame]
    exact hf
  | lineText n line =>
    have hsame : (simple own c (.lineText n line)).2.sources = c.sources :=
      withFile_sources n fun g => by cases g.lineText? line <;> rfl
    rw [hsame]
    exact hf
  | hasErrors start =>
    simp only [simple]
    cases c.pipeline.hasErrors? start <;> exact hf
  | lookup pos =>
    simp only [simple]
    cases c.sources.lookup pos <;> exact hf
  | symbol name =>
    simp only [simple]
    cases c.atoms.lookup name <;> exact hf
  | intern name =>
    simp only [simple]
    cases c.atoms.intern? name <;> exact hf
  | format start n =>
    simp only [simple]
    cases Snippet.formatAll? (c.pipeline.snapshot start) (n.bind fun i => c.sources.files[i]?) <;> exact hf
  | parseThen name source config origin steps => exact absurd rfl (hparse _ _ _ _ _)
  | enter steps throwing => exact absurd rfl (henter _ _)
  | _ => exact hf

/-- **A file that is registered is touched by the steps that ask for its offsets**, and by
nothing else, however steps are nested. -/
theorem run_file (steps : List Step) (hf : c.sources.files[file]? = some f) :
    (run own c steps).2.sources.files[file]? = some (f.resolveAll (askedByAll file steps)) := by
  refine (step.mutual_induct own
    (fun c s => ∀ f, c.sources.files[file]? = some f →
      (step own c s).2.sources.files[file]? = some (f.resolveAll (askedBy file s)))
    (fun c steps => ∀ f, c.sources.files[file]? = some f →
      (run own c steps).2.sources.files[file]? = some (f.resolveAll (askedByAll file steps)))
    ?_ ?_ ?_ ?_ ?_).2 c steps f hf
  · intro c name source config origin steps ih f hf
    rw [step]
    exact ih _ f (register_file (c := {c with atoms := c.atoms.opened}) _ config name source hf)
  · intro c steps throwing ih f hf
    rw [step]
    cases throwing <;> exact ih {c with atoms := c.atoms.opened} f hf
  · intro c s hparse henter f hf
    rw [step]
    · exact simple_file own s hparse henter hf
    · exact hparse
    · exact henter
  · intro c f hf
    exact hf
  · intro c s rest reply next hstep answers last hrun ihstep ihrest f hf
    rw [hstep] at ihstep
    rw [hrun] at ihrest
    simp only [run, hstep, hrun, askedByAll, Transcript.resolveAll_append]
    exact ihrest _ (ihstep f hf)

/-- What a file answers when it is asked for an offset. -/
theorem byteOffset_reply (index : Int) (hf : c.sources.files[file]? = some f) :
    (step own c (.byteOffset file index)).1 = .ok (.number (f.byteOffset index)) := by
  simp [step, simple, withFile, resolve, hf]

end File

/-- **A parse only appends to its context**, however it ends, and so does an analysis. One file
is added, of the name and the source given; records and names go behind those that were
there. A file that was there is the same, with its name, text and range, and with its
cursor and its comments. So an offset that is asked of it later, after any steps whatsoever,
is the one that it would have answered without the call. -/
theorem call_appends (h : Called c name source c') :
    (∃ f, c'.sources.files = c.sources.files ++ [f] ∧ f.name = name ∧ f.source = source) ∧
      c.pipeline.buffer <+: c'.pipeline.buffer ∧
      c.atoms.names <+: c'.atoms.names ∧
      ∀ file f, c.sources.files[file]? = some f →
        c'.sources.files[file]? = some f ∧
        c'.comments.forFile file = c.comments.forFile file ∧
        ∀ own later index,
          (step own (run own c' later).2 (.byteOffset file index)).1 =
            (step own (run own c later).2 (.byteOffset file index)).1 := by
  obtain ⟨t, ht, rfl⟩ := h.eq_parsed
  refine ⟨⟨_, parsed_files t name source c, SourceFile.resolveAll_name _ _,
    SourceFile.resolveAll_source _ _⟩, parsed_buffer t name source c ht, parsed_names t name source c,
    fun file f hf => ?_⟩
  have hkept := parsed_file t name source c hf
  refine ⟨hkept, parsed_comments_other t name source c (List.getElem?_eq_some_iff.mp hf).1,
    fun own later index => ?_⟩
  rw [byteOffset_reply own index (run_file own later hkept),
    byteOffset_reply own index (run_file own later hf)]

/-- A file whose cursor splits a pair counts on from there behind a parse that has failed and a
continuation that has thrown. -/
theorem throwing_onlyAppends :
    let own : Grammar := fun _ _ => ⟨[.comment true "note" 0 1, .complaint 1 "odd"], .thrown (.other "fault")⟩
    let c := (run own (Context.fresh {})
      [.newFile "a.js" [0xD834, 0xDD1E, 0x61], .byteOffset 0 1, .parse "b.js" "é" {} .library]).2
    let throwing : Outcome → Context → Except Text Unit × Context := fun _ c => (.error "thrown", c)
    let c' := (parseThen own {} "c.js" "é" throwing c).2
    Called c "c.js" "é" c' ∧ c'.sources.files.length = 3 ∧
      (step own c' (.byteOffset 0 2)).1 = .ok (.number 6) := by
  intro own c throwing c'
  have hcalled : Called c "c.js" "é" c' := .parseThen own {} "c.js" "é" throwing rfl
  obtain ⟨⟨f, hfiles, -, -⟩, -, -, hearlier⟩ := call_appends hcalled
  let first := (SourceFile.create "a.js" [0xD834, 0xDD1E, 0x61] 0).resolve 1
  have hfirst : c.sources.files[0]? = some first := rfl
  have hoffset : first.byteOffset 2 = 6 := by decide +kernel
  obtain ⟨-, -, hlater⟩ := hearlier 0 first hfirst
  have hreply := (hlater own [] 2).trans (byteOffset_reply own 2 hfirst)
  rw [hoffset] at hreply
  exact ⟨hcalled, by rw [hfiles, List.length_append]; rfl, hreply⟩

end EcmaModule.Session
