import EcmaModule.Engine
import EcmaModule.Proofs.Atoms
import EcmaModule.Proofs.Diagnostic.Pipeline
import EcmaModule.Proofs.SourceMap.Cursor

/-! What a parse does to its context, as a list of acts.

A grammar's run comes down to acts on one file: comments, notices and names. The acts
leave a transcript (the offsets asked for, the comments, the names, the records) that
depends on the name and the text of the file alone, and the context after a parse is the
context before it with the new file and the transcript written into it
(`parseModule_eq`). What a parse does is read off the transcript from then on, without
replaying anything. -/
namespace EcmaModule.Engine

/-! ### Acts -/

/-- An error to report: what its record says, and the indices its span is made of. -/
structure Notice where
  code : DiagnosticCode
  pos : Int
  message : Text
  stop : Int

inductive Act where
  | comment (isBlock : Bool) (text : Text) (start stop : Int)
  | notice (n : Notice)
  | identifier (name : Text)

namespace Act

def perform (file : Nat) (c : Context) : Act → Context
  | comment isBlock text start stop => addComment c file isBlock text start stop
  | notice n => report c file n.code n.pos n.message n.stop
  | identifier name => {c with atoms := c.atoms.insert name}

def ofEvent : Grammar.Event → Act
  | .comment isBlock text start stop => comment isBlock text start stop
  | .complaint pos message => notice ⟨.recoverable, pos, message, pos⟩

def ofThrown : Grammar.Thrown → Notice
  | .syntaxError message pos raisedAt =>
    ⟨.fatal, pos.getD 0, cutLocation message, max (pos.getD 0) (raisedAt.getD (pos.getD 0))⟩
  | .other message => ⟨.parserFault, 0, Text.ofString "Internal parser error: " ++ message, 0⟩

/-- A dynamic import that is not allowed, at the integer parts of its start and end. -/
def refused (n : Tree.Node) : Notice :=
  ⟨.dynamicImport, n.start.toIndex, dynamicImportMessage, n.stop.toIndex⟩

def ofVisit? (dynamicImport : Bool) (v : Tree.Visit) : Option Act :=
  match identifierName? v.node with
  | some name => some (.identifier name)
  | none =>
    if v.node.isKind "ImportExpression" && !dynamicImport then some (.notice (refused v.node))
    else none

def ofEnding (dynamicImport : Bool) : Grammar.Ending → List Act
  | .tree module => (Tree.visits module).filterMap (ofVisit? dynamicImport)
  | .thrown what => [.notice (ofThrown what)]

/-- All acts of a run. -/
def ofRun (dynamicImport : Bool) (run : Grammar.Run) : List Act :=
  run.events.map ofEvent ++ ofEnding dynamicImport run.ending

theorem deliver_eq (file : Nat) (c : Context) (e : Grammar.Event) :
    deliver file c e = perform file c (ofEvent e) := by
  cases e <;> rfl

theorem visit_eq (file : Nat) (dynamicImport : Bool) (c : Context) (v : Tree.Visit) :
    visit file dynamicImport c v = (ofVisit? dynamicImport v).toList.foldl (perform file) c := by
  unfold visit ofVisit?
  cases identifierName? v.node with
  | some name => rfl
  | none =>
    show (if _ then _ else _) = List.foldl _ _ (if _ then _ else _ : Option Act).toList
    split <;> rfl

theorem visits_eq (file : Nat) (dynamicImport : Bool) (vs : List Tree.Visit) (c : Context) :
    vs.foldl (visit file dynamicImport) c =
      (vs.filterMap (ofVisit? dynamicImport)).foldl (perform file) c := by
  induction vs generalizing c with
  | nil => rfl
  | cons v rest ih =>
    rw [List.foldl_cons, ih, visit_eq, List.filterMap_cons]
    cases ofVisit? dynamicImport v <;> rfl

theorem conclude_eq (file : Nat) (dynamicImport : Bool) (c : Context) (ending : Grammar.Ending) :
    conclude file dynamicImport c ending =
      (ofEnding dynamicImport ending).foldl (perform file) c := by
  cases ending with
  | tree module => exact visits_eq file dynamicImport _ c
  | thrown what => cases what <;> rfl

theorem events_eq (file : Nat) (c : Context) (events : List Grammar.Event) :
    events.foldl (deliver file) c = (events.map ofEvent).foldl (perform file) c := by
  rw [List.foldl_map]
  congr 1
  funext c e
  exact deliver_eq file c e

/-- A run is its acts, one after the other. -/
theorem run_eq (file : Nat) (dynamicImport : Bool) (c : Context) (run : Grammar.Run) :
    conclude file dynamicImport (run.events.foldl (deliver file) c) run.ending =
      (ofRun dynamicImport run).foldl (perform file) c := by
  rw [events_eq, conclude_eq, ofRun, List.foldl_append]

/-- The indices whose offsets an act asks for. -/
def asked : Act → List Int
  | comment _ _ start stop => [start, stop]
  | notice n => [n.pos, n.stop]
  | identifier _ => []

end Act

/-! ### Transcripts -/

/-- What acts leave behind. -/
structure Transcript where
  asked : List Int := []
  comments : List Comment := []
  names : List Text := []
  records : List Record := []

/-- The span between two indices, resolved one after the other. -/
def spanOf (f : SourceFile) (start stop : Int) : Span :=
  ⟨f.byteOffset start, (f.resolve start).byteOffset stop⟩

/-- The record of a notice in a file. -/
def Notice.record (f : SourceFile) (n : Notice) : Record where
  code := n.code.name
  severity := .error
  message := n.message
  file := f.name
  span := spanOf f n.pos n.stop
  loc := f.position n.pos
  labels := []

namespace Transcript

def append (t u : Transcript) : Transcript :=
  ⟨t.asked ++ u.asked, t.comments ++ u.comments, t.names ++ u.names, t.records ++ u.records⟩

/-- What one act leaves behind in a file. -/
def ofAct (f : SourceFile) : Act → Transcript
  | .comment isBlock text start stop =>
    { asked := [start, stop]
      comments := [⟨if isBlock then .block else .line, text, spanOf f start stop⟩] }
  | .notice n => { asked := [n.pos, n.stop], records := [n.record f] }
  | .identifier name => { names := [name] }

/-- What acts leave behind in a file; the offsets asked for by one act move the cursor
that the next one finds. -/
def ofActs (f : SourceFile) : List Act → Transcript
  | [] => {}
  | a :: rest => (ofAct f a).append (ofActs (f.resolveAll a.asked) rest)

theorem asked_ofAct (f : SourceFile) (a : Act) : (ofAct f a).asked = a.asked := by
  cases a <;> rfl

/-- A context with a transcript of one of its files written into it. -/
def writeTo (t : Transcript) (file : Nat) (c : Context) : Context where
  sources := c.sources.modify file fun f => f.resolveAll t.asked
  comments := t.comments.foldl (fun s k => s.add (some file) k) c.comments
  atoms := t.names.foldl Atoms.insert c.atoms
  pipeline := t.records.foldl Pipeline.emit c.pipeline

theorem modify_modify (m : SourceMap) (file : Nat) (g h : SourceFile → SourceFile) :
    (m.modify file g).modify file h = m.modify file fun f => h (g f) := by
  simp only [SourceMap.modify, List.modify_modify_eq, Function.comp_def]

theorem modify_self (m : SourceMap) (file : Nat) : (m.modify file fun f => f) = m := by
  show (⟨m.files.modify file id⟩ : SourceMap) = m
  rw [List.modify_id]

theorem writeTo_empty (file : Nat) (c : Context) : ({} : Transcript).writeTo file c = c := by
  show {c with sources := c.sources.modify file fun f => f} = c
  rw [modify_self]

theorem writeTo_append (t u : Transcript) (file : Nat) (c : Context) :
    (t.append u).writeTo file c = u.writeTo file (t.writeTo file c) := by
  simp only [writeTo, append, List.foldl_append, SourceFile.resolveAll, modify_modify]

/-! ### Performing acts -/

theorem resolve_eq {c : Context} {file : Nat} {f : SourceFile}
    (hf : c.sources.files[file]? = some f) (index : Int) :
    resolve c file index =
      (f.byteOffset index, {c with sources := c.sources.modify file fun f => f.resolve index}) := by
  simp [resolve, hf]

theorem files_modify {c : Context} {file : Nat} {f : SourceFile}
    (hf : c.sources.files[file]? = some f) (g : SourceFile → SourceFile) :
    ({c with sources := c.sources.modify file g} : Context).sources.files[file]? = some (g f) := by
  simp [SourceMap.modify, hf]

/-- One act, read off its transcript. -/
theorem perform_eq {c : Context} {file : Nat} {f : SourceFile}
    (hf : c.sources.files[file]? = some f) (a : Act) :
    a.perform file c = (ofAct f a).writeTo file c := by
  cases a with
  | comment isBlock text start stop =>
    simp only [Act.perform, addComment, resolve_eq hf, resolve_eq (files_modify hf _), modify_modify]
    rfl
  | notice n =>
    have hfile : (c.sources.modify file fun f => (f.resolve n.pos).resolve n.stop).files.getD file
        default = (f.resolve n.pos).resolve n.stop := by
      simp [SourceMap.modify, hf]
    simp only [Act.perform, report, resolve_eq hf, resolve_eq (files_modify hf _), modify_modify, hfile]
    rfl
  | identifier name =>
    simp only [writeTo, ofAct, SourceFile.resolveAll, List.foldl_nil, modify_self]
    rfl

/-- **Acts, one after the other, read off their transcript.** -/
theorem foldl_perform {c : Context} {file : Nat} {f : SourceFile}
    (hf : c.sources.files[file]? = some f) (acts : List Act) :
    acts.foldl (Act.perform file) c = (ofActs f acts).writeTo file c := by
  induction acts generalizing c f with
  | nil => exact (writeTo_empty file c).symm
  | cons a rest ih =>
    have hnext : ((ofAct f a).writeTo file c).sources.files[file]? = some (f.resolveAll a.asked) := by
      simp [writeTo, SourceMap.modify, hf, asked_ofAct]
    rw [List.foldl_cons, perform_eq hf, ih hnext, ofActs, writeTo_append]

theorem resolveAll_startPos (f : SourceFile) (startPos : Nat) (asked : List Int) :
    ({f with startPos := startPos} : SourceFile).resolveAll asked =
      {f.resolveAll asked with startPos := startPos} := by
  induction asked generalizing f with
  | nil => rfl
  | cons index rest ih => exact ih (f.resolve index)

/-- A transcript does not depend on where the file lies among others. -/
theorem ofActs_startPos (f : SourceFile) (startPos : Nat) (acts : List Act) :
    ofActs {f with startPos := startPos} acts = ofActs f acts := by
  induction acts generalizing f with
  | nil => rfl
  | cons a rest ih =>
    have hact : ofAct {f with startPos := startPos} a = ofAct f a := by
      cases a <;> rfl
    rw [ofActs, ofActs, hact, resolveAll_startPos, ih]

theorem resolveAll_append (f : SourceFile) (a b : List Int) :
    f.resolveAll (a ++ b) = (f.resolveAll a).resolveAll b := List.foldl_append

theorem append_assoc (t u v : Transcript) : (t.append u).append v = t.append (u.append v) := by
  simp only [append, List.append_assoc]

/-- Acts find the cursor as the acts before them have left it. -/
theorem ofActs_append (f : SourceFile) (a b : List Act) :
    ofActs f (a ++ b) = (ofActs f a).append (ofActs (f.resolveAll (a.flatMap Act.asked)) b) := by
  induction a generalizing f with
  | nil => rfl
  | cons x rest ih =>
    rw [List.flatMap_cons, resolveAll_append, List.cons_append, ofActs, ih, ofActs, append_assoc]

/-- Records of a transcript are errors. -/
theorem records_error (f : SourceFile) (acts : List Act) :
    ∀ r ∈ (ofActs f acts).records, r.severity = .error := by
  induction acts generalizing f with
  | nil => intro r hr; cases hr
  | cons a rest ih =>
    intro r hr
    rcases List.mem_append.mp hr with hr | hr
    · cases a with
      | notice n => rw [List.mem_singleton.mp hr]; rfl
      | comment isBlock text start stop => cases hr
      | identifier name => cases hr
    · exact ih _ r hr

/-- The transcript of a run on a source. -/
def ofRun (name source : Text) (dynamicImport : Bool) (run : Grammar.Run) : Transcript :=
  ofActs (SourceFile.create name source 0) (Act.ofRun dynamicImport run)

theorem ofRun_error (name source : Text) (dynamicImport : Bool) (run : Grammar.Run) :
    ∀ r ∈ (ofRun name source dynamicImport run).records, r.severity = .error :=
  records_error _ _

end Transcript

/-! ### A whole parse -/

theorem module_eq_some_iff {ending : Grammar.Ending} {module : Value} :
    ending.module? = some module ↔ ending = .tree module ∧ module ≠ .undefined := by
  unfold Grammar.Ending.module?
  split
  · exact iff_of_false nofun fun ⟨h, hdefined⟩ => hdefined (Grammar.Ending.tree.inj h).symm
  · next tree hdefined =>
    constructor
    · rintro ⟨⟩
      exact ⟨rfl, hdefined⟩
    · rintro ⟨⟨⟩, -⟩
      rfl
  · exact iff_of_false nofun fun h => nomatch h.1

/-- A run comes to no tree if it throws, or if undefined stands for one. -/
theorem module_eq_none_iff {ending : Grammar.Ending} :
    ending.module? = none ↔ (∃ what, ending = .thrown what) ∨ ending = .tree .undefined := by
  unfold Grammar.Ending.module?
  split
  · exact iff_of_true rfl (.inr rfl)
  · next tree hdefined =>
    refine iff_of_false nofun ?_
    rintro (⟨_, ⟨⟩⟩ | ⟨⟨⟩⟩)
    exact hdefined rfl
  · next what => exact iff_of_true rfl (.inl ⟨what, rfl⟩)

/-- What the records raised make of the ending of a run. -/
def verdict (records : List Record) (ending : Grammar.Ending) : Outcome :=
  match ending.module? with
  | none => .failed ⟨records⟩
  | some module => if records.any fun r => r.severity == .error then .failed ⟨records⟩ else .ok module

theorem outcome_eq {c : Context} {mark : Nat} {records : List Record}
    (h : c.pipeline.buffer.drop mark = records) (ending : Grammar.Ending) :
    outcome c mark ending = verdict records ending := by
  have hnonneg : ¬ ((mark : Int) < 0) := by omega
  have hsnapshot : c.pipeline.snapshot mark = records := by
    rw [Pipeline.snapshot, Text.clampBound_natCast, ← h]
    rcases Nat.le_total mark c.pipeline.buffer.length with hle | hle
    · rw [Nat.min_eq_left hle]
    · rw [Nat.min_eq_right hle, List.drop_length, List.drop_eq_nil_of_le hle]
  have herrors : c.pipeline.hasErrors? mark = some (records.any fun r => r.severity == .error) := by
    rw [Pipeline.hasErrors?, if_neg hnonneg, Int.toNat_natCast, h]
  unfold outcome verdict
  cases ending.module? with
  | none => rw [hsnapshot]
  | some module => simp only [herrors, hsnapshot, Option.some.injEq]

/-- The context after a parse that left a transcript. -/
def parsed (t : Transcript) (name source : Text) (c : Context) : Context :=
  let written := t.writeTo c.sources.files.length {c with sources := c.sources.newFile name source}
  {written with pipeline := written.pipeline.flush}

/-- All records, the held ones first, have reached the buffer after a parse. -/
theorem parsed_pipeline {t : Transcript} (ht : ∀ r ∈ t.records, r.severity = .error)
    (name source : Text) {c : Context} (hc : c.pipeline.Orderly) :
    (parsed t name source c).pipeline =
      {c.pipeline with
        buffer := c.pipeline.buffer ++ c.pipeline.pending ++ t.records, pending := []} :=
  Pipeline.flush_emitAll hc ht

/-- The new file goes behind the others, its cursor where the transcript has left it. -/
theorem parsed_files (t : Transcript) (name source : Text) (c : Context) :
    (parsed t name source c).sources.files = c.sources.files ++
      [{(SourceFile.create name source 0).resolveAll t.asked with startPos := c.sources.nextStart}] := by
  show (c.sources.files ++ [SourceFile.create name source c.sources.nextStart]).modify
    c.sources.files.length _ = _
  have hresolved := Transcript.resolveAll_startPos (SourceFile.create name source 0)
    c.sources.nextStart t.asked
  rw [List.modify_eq_take_drop, List.take_left, List.drop_left]
  exact congrArg (fun f => c.sources.files ++ [f]) hresolved

theorem newFile_last (m : SourceMap) (name source : Text) :
    (m.newFile name source).files[m.files.length]? =
      some {SourceFile.create name source 0 with startPos := m.nextStart} := by
  simp [SourceMap.newFile]
  rfl

/-- What a parse reports when its transcript is written, the records held before it included. -/
theorem parsed_outcome {t : Transcript} (ht : ∀ r ∈ t.records, r.severity = .error)
    (name source : Text) (c : Context) (ending : Grammar.Ending) :
    outcome (parsed t name source c) c.pipeline.buffer.length ending =
      verdict (c.pipeline.reported t.records) ending := by
  have hflush : (parsed t name source c).pipeline = _ := Pipeline.flush_errors ht
  apply outcome_eq
  rw [hflush, List.drop_left]

/-- The parse of a file, its scope being open, in any context. -/
theorem register_reported (grammar : Grammar) (config : Configuration) (name source : Text)
    (c : Context) :
    let run := grammar config.dialect source
    let t := Transcript.ofRun name source config.dynamicImport run
    register grammar config name source c =
      (verdict (c.pipeline.reported t.records) run.ending, parsed t name source c) := by
  intro run t
  have hfile := newFile_last c.sources name source
  have hacts := Act.run_eq c.sources.files.length config.dynamicImport
    {c with sources := c.sources.newFile name source} run
  rw [Transcript.foldl_perform hfile, Transcript.ofActs_startPos] at hacts
  have hfinal := parsed_outcome (Transcript.ofRun_error name source config.dynamicImport run)
    name source c run.ending
  simp only [register, replay, run] at hacts ⊢
  rw [hacts]
  exact Prod.ext hfinal rfl

theorem register_eq (grammar : Grammar) (config : Configuration) (name source : Text) {c : Context}
    (hc : c.pipeline.Orderly) :
    let run := grammar config.dialect source
    let t := Transcript.ofRun name source config.dynamicImport run
    register grammar config name source c =
      (verdict (c.pipeline.pending ++ t.records) run.ending, parsed t name source c) := by
  intro run t
  rw [register_reported, Pipeline.reported_orderly hc]

/-- **A parse, read off its transcript**, in any context. The context gains a file and the
transcript of the run, and what reaches the buffer on the way decides the outcome. -/
theorem parseModule_reported (grammar : Grammar) (config : Configuration) (name source : Text)
    (c : Context) :
    let run := grammar config.dialect source
    let t := Transcript.ofRun name source config.dynamicImport run
    parseModule grammar config name source c =
      (verdict (c.pipeline.reported t.records) run.ending, parsed t name source c) := by
  intro run t
  have hregister := register_reported grammar config name source {c with atoms := c.atoms.opened}
  simp only [parseModule, hregister]
  refine Prod.ext rfl ?_
  simp only [parsed, Transcript.writeTo, Atoms.foldl_insert_opened, Atoms.closed_opened]
  rfl

/-- Where a handler that forwards at once holds nothing, the records held before a parse come
ahead of its own. -/
theorem parseModule_eq (grammar : Grammar) (config : Configuration) (name source : Text) {c : Context}
    (hc : c.pipeline.Orderly) :
    let run := grammar config.dialect source
    let t := Transcript.ofRun name source config.dynamicImport run
    parseModule grammar config name source c =
      (verdict (c.pipeline.pending ++ t.records) run.ending, parsed t name source c) := by
  intro run t
  rw [parseModule_reported, Pipeline.reported_orderly hc]

/-- When nothing was held back, the run alone decides the outcome. -/
theorem parseModule_eq_of_empty (grammar : Grammar) (config : Configuration) (name source : Text)
    {c : Context} (hheld : c.pipeline.pending = []) :
    let run := grammar config.dialect source
    let t := Transcript.ofRun name source config.dynamicImport run
    parseModule grammar config name source c = (verdict t.records run.ending, parsed t name source c) := by
  have h := parseModule_eq grammar config name source (Pipeline.orderly_of_empty hheld)
  rwa [hheld] at h

end EcmaModule.Engine
