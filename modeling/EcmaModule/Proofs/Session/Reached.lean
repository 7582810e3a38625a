import EcmaModule.Proofs.Engine.Transcript
import EcmaModule.Session
import Mathlib.Logic.Relation

/-! The contexts a session can reach.

A session reaches a context before its first step, after any step, and inside a step:
where the body of a scope starts, and where a continuation takes over from its parse
(`Reached`). However steps are nested, all that happens to a context on the way is a
sequence of small moves (`step_moves`), so what every move keeps holds of every context
reached (`Reached.tidy`). -/
namespace EcmaModule.Session

open Engine Relation

/-! ### Moves -/

/-- The smallest changes of a context. -/
inductive Move : Context → Context → Prop where
  | newFile (c : Context) (name source : Text) :
    Move c {c with sources := c.sources.newFile name source}
  | resolve (c : Context) (file : Nat) (index : Int) : Move c (resolve c file index).2
  /-- A comment of a file that is registered, or of none that is. -/
  | comment (c : Context) (file : Option Nat) (comment : Comment)
    (h : ∀ n, file = some n → n < c.sources.files.length) :
    Move c {c with comments := c.comments.add file comment}
  | opened (c : Context) : Move c {c with atoms := c.atoms.opened}
  | closed (c : Context) : Move c {c with atoms := c.atoms.closed}
  | insert (c : Context) (name : Text) : Move c {c with atoms := c.atoms.insert name}
  | emit (c : Context) (r : Record) : Move c {c with pipeline := c.pipeline.emit r}
  | push (c : Context) (r : Record) : Move c {c with pipeline := c.pipeline.push r}
  | flush (c : Context) : Move c {c with pipeline := c.pipeline.flush}

/-- One context comes from another by moves. -/
abbrev Moves : Context → Context → Prop := ReflTransGen Move

/-! ### Moves of a parse -/

theorem resolve_length (c : Context) (file : Nat) (index : Int) :
    (resolve c file index).2.sources.files.length = c.sources.files.length := by
  simp [resolve, SourceMap.modify]

theorem perform_length (file : Nat) (c : Context) (a : Act) :
    (a.perform file c).sources.files.length = c.sources.files.length := by
  cases a with
  | comment isBlock text start stop => exact (resolve_length _ _ _).trans (resolve_length _ _ _)
  | notice n => exact (resolve_length _ _ _).trans (resolve_length _ _ _)
  | identifier name => rfl

theorem perform_moves {file : Nat} {c : Context} (h : file < c.sources.files.length) (a : Act) :
    Moves c (a.perform file c) := by
  have htwo : ∀ start stop, Moves c (resolve (resolve c file start).2 file stop).2 := fun start stop =>
    (ReflTransGen.single (.resolve c file start)).tail (.resolve _ file stop)
  cases a with
  | comment isBlock text start stop =>
    refine (htwo start stop).tail (.comment _ (some file) _ fun n hn => ?_)
    rw [resolve_length, resolve_length, ← Option.some.inj hn]
    exact h
  | notice n => exact (htwo n.pos n.stop).tail (.emit _ _)
  | identifier name => exact .single (.insert c name)

theorem foldl_perform_moves {file : Nat} (acts : List Act) {c : Context}
    (h : file < c.sources.files.length) : Moves c (acts.foldl (Act.perform file) c) := by
  induction acts generalizing c with
  | nil => exact .refl
  | cons a rest ih => exact (perform_moves h a).trans (ih (by rw [perform_length]; exact h))

theorem register_moves (grammar : Grammar) (config : Configuration) (name source : Text) (c : Context) :
    Moves c (register grammar config name source c).2 := by
  have hfile : c.sources.files.length < (c.sources.newFile name source).files.length := by
    simp [SourceMap.newFile]
  have hacts := Act.run_eq c.sources.files.length config.dynamicImport
    {c with sources := c.sources.newFile name source} (grammar config.dialect source)
  have hflush := Move.flush ((Act.ofRun config.dynamicImport (grammar config.dialect source)).foldl
    (Act.perform c.sources.files.length) {c with sources := c.sources.newFile name source})
  rw [← hacts] at hflush
  refine (ReflTransGen.head (.newFile c name source) ?_).tail hflush
  rw [hacts]
  exact foldl_perform_moves _ hfile

theorem enter_moves {ε α : Type} {body : Context → Except ε α × Context}
    (h : ∀ c, Moves c (body c).2) (c : Context) : Moves c (enter body c).2 :=
  (ReflTransGen.head (.opened c) (h _)).tail (.closed _)

theorem parseThen_moves {ε α : Type} (grammar : Grammar) (config : Configuration) (name source : Text)
    {continuation : Outcome → Context → Except ε α × Context}
    (h : ∀ o c, Moves c (continuation o c).2) (c : Context) :
    Moves c (parseThen grammar config name source continuation c).2 :=
  enter_moves (fun c => (register_moves grammar config name source c).trans (h _ _)) c

theorem parseModule_moves (grammar : Grammar) (config : Configuration) (name source : Text) (c : Context) :
    Moves c (parseModule grammar config name source c).2 :=
  (ReflTransGen.head (.opened c) (register_moves grammar config name source _)).tail (.closed _)

/-! ### Moves of a session -/

theorem withFile_moves {c : Context} (file : Nat) {answer : SourceFile → Answer × Context}
    (h : ∀ f, Moves c (answer f).2) : Moves c (withFile c file answer).2 := by
  unfold withFile
  cases c.sources.files[file]? with
  | none => exact .refl
  | some f => exact h f

theorem intern_moves {c : Context} {name : Text} {n : Nat} {atoms : Atoms}
    (h : c.atoms.intern? name = some (n, atoms)) : Moves c {c with atoms := atoms} := by
  unfold Atoms.intern? at h
  split at h
  · obtain ⟨m, _, hm⟩ := Option.map_eq_some_iff.mp h
    rw [← (Prod.mk.inj hm).2]
    exact .single (.insert c name)
  · cases h

theorem simple_moves (own : Grammar) (c : Context) (s : Step) : Moves c (simple own c s).2 := by
  cases s with
  | parse file source config origin => exact parseModule_moves _ _ _ _ c
  | parseThrow file source config origin message =>
    exact parseThen_moves _ _ _ _ (fun _ _ => .refl) c
  | analyze source config dynamic origin => exact parseModule_moves _ _ _ _ c
  | emit r => exact .single (.emit c r)
  | push r => exact .single (.push c r)
  | flush => exact .single (.flush c)
  | newFile name source => exact .single (.newFile c name source)
  | byteOffset file index => exact withFile_moves file fun _ => .single (.resolve c file index)
  | position file index => exact withFile_moves file fun _ => .refl
  | lineText file line =>
    refine withFile_moves file fun f => ?_
    cases f.lineText? line <;> exact .refl
  | hasErrors start =>
    simp only [simple]
    cases c.pipeline.hasErrors? start <;> exact .refl
  | lookup pos =>
    simp only [simple]
    cases c.sources.lookup pos <;> exact .refl
  | symbol name =>
    simp only [simple]
    cases c.atoms.lookup name <;> exact .refl
  | format start file =>
    simp only [simple]
    cases Snippet.formatAll? (c.pipeline.snapshot start) (file.bind fun i => c.sources.files[i]?) <;>
      exact .refl
  | intern name =>
    simp only [simple]
    cases h : c.atoms.intern? name with
    | none => exact .refl
    | some answer => exact intern_moves h
  | addComment file comment =>
    refine .single (.comment c (registered? c file) comment fun n hn => ?_)
    unfold registered? at hn
    split at hn
    · rw [← Option.some.inj hn]
      assumption
    · cases hn
  | flags | snapshot start | files | symbols | comments file => exact .refl
  | parseThen file source config origin steps => exact .refl
  | enter steps throwing => exact .refl

/-- **Steps are made of moves**, however they are nested. -/
theorem step_moves (own : Grammar) (c : Context) (s : Step) : Moves c (step own c s).2 := by
  refine (step.mutual_induct own (fun c s => Moves c (step own c s).2)
    (fun c steps => Moves c (run own c steps).2) ?_ ?_ ?_ ?_ ?_).1 c s
  · intro c file source config origin steps ih
    rw [step]
    exact parseThen_moves _ _ _ _ (fun _ c => ih c) c
  · intro c steps throwing ih
    rw [step]
    refine enter_moves (fun c => ?_) c
    cases throwing <;> exact ih c
  · intro c s hparse henter
    rw [step]
    · exact simple_moves own c s
    · exact hparse
    · exact henter
  · intro c
    exact .refl
  · intro c s rest reply next hstep answers last hrun ihstep ihrest
    simp only [run, hstep, hrun]
    rw [hstep] at ihstep
    rw [hrun] at ihrest
    exact ihstep.trans ihrest

/-! ### Contexts reached -/

/-- The contexts in which a session can make its next call, whatever grammars it uses. -/
inductive Reached : Context → Prop where
  | fresh (flags : HandlerFlags) : Reached (Context.fresh flags)
  | step {c : Context} (own : Grammar) (s : Step) (h : Reached c) : Reached (Session.step own c s).2
  /-- Where the body of a scope starts. -/
  | within {c : Context} (h : Reached c) : Reached {c with atoms := c.atoms.opened}
  /-- Where a continuation takes over. -/
  | continued {c : Context} (grammar : Grammar) (config : Configuration) (name source : Text)
    (h : Reached c) : Reached (register grammar config name source {c with atoms := c.atoms.opened}).2

theorem Reached.moves {c : Context} (h : Reached c) : ∃ flags, Moves (Context.fresh flags) c := by
  induction h with
  | fresh flags => exact ⟨flags, .refl⟩
  | step own s _ ih =>
    obtain ⟨flags, hmoves⟩ := ih
    exact ⟨flags, hmoves.trans (step_moves own _ s)⟩
  | within _ ih =>
    obtain ⟨flags, hmoves⟩ := ih
    exact ⟨flags, hmoves.tail (.opened _)⟩
  | continued grammar config name source _ ih =>
    obtain ⟨flags, hmoves⟩ := ih
    exact ⟨flags, (hmoves.tail (.opened _)).trans (register_moves grammar config name source _)⟩

/-- What every move keeps: a handler that forwards at once holds nothing, and comments
belong to files that are registered. -/
structure Tidy (c : Context) : Prop where
  orderly : c.pipeline.Orderly
  numbered : ∀ e ∈ c.comments.entries, ∀ n, e.1 = some n → n < c.sources.files.length

theorem fresh_tidy (flags : HandlerFlags) : Tidy (Context.fresh flags) where
  orderly := fun _ => rfl
  numbered := by
    intro e he
    cases he

theorem move_tidy {c c' : Context} (hmove : Move c c') (h : Tidy c) : Tidy c' := by
  cases hmove with
  | newFile name source =>
    refine ⟨h.orderly, fun e he n hn => ?_⟩
    have hlt := h.numbered e he n hn
    show n < (c.sources.newFile name source).files.length
    simp only [SourceMap.newFile, List.length_append]
    omega
  | resolve file index =>
    refine ⟨h.orderly, fun e he n hn => ?_⟩
    rw [resolve_length]
    exact h.numbered e he n hn
  | comment file comment hfile =>
    refine ⟨h.orderly, fun e he n hn => ?_⟩
    unfold CommentStore.add at he
    split at he
    · exact h.numbered e he n hn
    · rcases List.mem_append.mp he with he | he
      · exact h.numbered e he n hn
      · rw [List.mem_singleton.mp he] at hn
        exact hfile n hn
  | opened | closed => exact ⟨h.orderly, h.numbered⟩
  | insert name => exact ⟨h.orderly, h.numbered⟩
  | emit r => exact ⟨Pipeline.emit_orderly h.orderly r, h.numbered⟩
  | push r => exact ⟨Pipeline.push_orderly h.orderly r, h.numbered⟩
  | flush => exact ⟨Pipeline.flush_orderly _, h.numbered⟩

theorem moves_tidy {c c' : Context} (hmoves : Moves c c') (h : Tidy c) : Tidy c' := by
  induction hmoves with
  | refl => exact h
  | tail _ hmove ih => exact move_tidy hmove ih

theorem Reached.tidy {c : Context} (h : Reached c) : Tidy c := by
  obtain ⟨flags, hmoves⟩ := h.moves
  exact moves_tidy hmoves (fresh_tidy flags)

end EcmaModule.Session
