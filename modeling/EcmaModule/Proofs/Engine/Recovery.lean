import EcmaModule.Proofs.Engine.Location
import EcmaModule.Proofs.Engine.Outcome

/-! A grammar that goes on from its errors.

Left to itself, a grammar throws every error it raises, with the place behind the message.
Under the engine an error that it can go on from is reported, and the grammar goes on.
Both do the same up to the first error, and from there on the engine has a record that
nothing takes back: neither a tree at the end nor an error thrown later. So the engine
accepts a source if and only if the grammar alone does, with the same tree, and otherwise
reports first what the grammar alone would have thrown
(`parseModule_conservative`). -/
namespace EcmaModule.Engine

/-- What a grammar does that never catches its own errors. -/
inductive Process where
  | returns (module : Value)
  | throws (what : Grammar.Thrown)
  | comment (isBlock : Bool) (text : Text) (start stop : Int) (next : Process)
  /-- An error at an index that the grammar can go on from, raised after it has read up to
  another index. -/
  | complains (pos : Int) (message : Text) (raisedAt : Int) (next : Process)

/-- The place of an index in a source. -/
def placeIn (source : Text) (index : Int) : Position := (SourceFile.create [] source 0).position index

namespace Process

/-- The run under the engine: complaints are reported. -/
def recovering : Process → Grammar.Run
  | returns module => ⟨[], .tree module⟩
  | throws what => ⟨[], .thrown what⟩
  | comment isBlock text start stop next =>
    ⟨.comment isBlock text start stop :: next.recovering.events, next.recovering.ending⟩
  | complains pos message _ next =>
    ⟨.complaint pos message :: next.recovering.events, next.recovering.ending⟩

/-- The run of the grammar alone: a complaint is thrown. -/
def plain (source : Text) : Process → Grammar.Run
  | returns module => ⟨[], .tree module⟩
  | throws what => ⟨[], .thrown what⟩
  | comment isBlock text start stop next =>
    ⟨.comment isBlock text start stop :: (next.plain source).events, (next.plain source).ending⟩
  | complains pos message raisedAt _ =>
    ⟨[], .thrown (.syntaxError (located message (placeIn source pos)) (some pos) (some raisedAt))⟩

/-- Without its complaints, the run under the engine is the run of the grammar alone. -/
theorem plain_tree_iff (source : Text) (p : Process) (module : Value) :
    (p.plain source).ending = .tree module ↔
      p.recovering.ending = .tree module ∧ complaints p.recovering.events = [] := by
  induction p with
  | returns tree => exact (and_iff_left rfl).symm
  | throws what => exact (and_iff_left rfl).symm
  | comment isBlock text start stop next ih => exact ih
  | complains pos message raisedAt next ih =>
    exact iff_of_false (fun h => by cases h) fun h => List.cons_ne_nil _ _ h.2

/-- The grammar alone delivers comments only. -/
theorem complaints_plain (source : Text) (p : Process) : complaints (p.plain source).events = [] := by
  induction p with
  | returns tree => rfl
  | throws what => rfl
  | comment isBlock text start stop next ih => exact ih
  | complains pos message raisedAt next ih => rfl

/-- A notice says what the grammar alone throws: a complaint, which is thrown with its place
behind it, or, if there is none, the thrown error as the engine reads it. -/
structure Announces (source : Text) (p : Process) (message : Text) (pos : Option Int) (n : Notice) :
    Prop where
  pos : n.pos = pos.getD 0
  complaint : complaints p.recovering.events ≠ [] →
    message = located n.message (placeIn source n.pos)
  thrown : complaints p.recovering.events = [] → n.message = cutLocation message

/-- Under the engine, the grammar does what it does alone, and then announces what it would
have thrown. -/
theorem recovering_acts {source : Text} {p : Process} {message : Text} {pos raisedAt : Option Int}
    (h : (p.plain source).ending = .thrown (.syntaxError message pos raisedAt)) :
    ∃ n rest, p.Announces source message pos n ∧
      Act.ofRun true p.recovering = (p.plain source).events.map Act.ofEvent ++ .notice n :: rest := by
  induction p with
  | returns tree => cases h
  | throws what =>
    obtain rfl : what = .syntaxError message pos raisedAt := by injection h
    exact ⟨Act.ofThrown (.syntaxError message pos raisedAt), [],
      ⟨rfl, fun hsome => absurd rfl hsome, fun _ => rfl⟩, rfl⟩
  | comment isBlock text start stop next ih =>
    obtain ⟨n, rest, hannounced, hacts⟩ := ih h
    exact ⟨n, rest, ⟨hannounced.pos, hannounced.complaint, hannounced.thrown⟩,
      congrArg (Act.comment isBlock text start stop :: ·) hacts⟩
  | complains index text raised next ih =>
    injection h with hthrown
    injection hthrown with hmessage hpos
    refine ⟨⟨.recoverable, index, text, index⟩, Act.ofRun true next.recovering,
      ⟨?_, fun _ => hmessage.symm, fun hnone => absurd hnone (List.cons_ne_nil _ _)⟩, rfl⟩
    rw [← hpos]
    rfl

/-- The indices of the comments that the grammar alone delivers. -/
def asked (source : Text) (p : Process) : List Int :=
  ((p.plain source).events.map Act.ofEvent).flatMap Act.asked

/-- The file of a source, as these comments leave it. -/
def fileAfter (name source : Text) (p : Process) : SourceFile :=
  (SourceFile.create name source 0).resolveAll (p.asked source)

/-- The first record of the run under the engine is of what the grammar alone throws. -/
theorem recovering_records (name : Text) {source : Text} {p : Process} {message : Text}
    {pos raisedAt : Option Int}
    (h : (p.plain source).ending = .thrown (.syntaxError message pos raisedAt)) :
    ∃ n rest, p.Announces source message pos n ∧
      (Transcript.ofRun name source true p.recovering).records =
        n.record (p.fileAfter name source) :: rest := by
  obtain ⟨n, rest, hannounced, hacts⟩ := recovering_acts h
  have hquiet := records_recordedAs name source [] ((p.plain source).events.map Act.ofEvent)
  rw [notices_ofEvents, complaints_plain] at hquiet
  have hnone := List.forall₂_nil_left_iff.mp hquiet
  let next := (p.fileAfter name source).resolveAll (Act.notice n).asked
  refine ⟨n, (Transcript.ofActs next rest).records, hannounced, ?_⟩
  rw [Transcript.ofRun, hacts, Transcript.ofActs_append]
  exact congrArg (· ++ _) hnone

section FileAfter
variable (name source : Text) (p : Process)

theorem fileAfter_name : (p.fileAfter name source).name = name := SourceFile.resolveAll_name _ _

theorem fileAfter_source : (p.fileAfter name source).source = source :=
  SourceFile.resolveAll_source _ _

theorem fileAfter_position (index : Int) :
    (p.fileAfter name source).position index = placeIn source index :=
  SourceFile.resolveAll_position _ _ index

/-- If no comment starts or ends inside a pair, an offset is a number of bytes. -/
theorem fileAfter_byteOffset
    (houtside : ∀ index ∈ p.asked source, source.insidePair index.toNat = false) {index : Int}
    (hindex : 0 ≤ index) :
    (p.fileAfter name source).byteOffset index = Utf8.byteLength (source.slice 0 index) := by
  have htracked := SourceFile.resolveAll_tracked _ [] (p.asked source)
    (SourceFile.create_tracked name source 0)
  have hsource := p.fileAfter_source name source
  have hbytes := SourceFile.byteOffset_outside (f := p.fileAfter name source) htracked
    (by rwa [hsource]) hindex
  rwa [hsource] at hbytes

end FileAfter

end Process

/-- The place of an index within a text has no sign in it. -/
theorem placeIn_natural (source : Text) {index : Int} (h : 0 ≤ index) :
    ∃ line column : Nat, placeIn source index = ⟨line, column⟩ := by
  let f := SourceFile.create [] source 0
  have hstart := f.lineSpan_start_le h
  refine ⟨f.lineOf index + 1, (index - (f.lineSpan (f.lineOf index)).start).toNat, ?_⟩
  rw [Int.toNat_of_nonneg (Int.sub_nonneg_of_le hstart)]
  rfl

/-- Whether complained or thrown, an error at an index is announced without its place. -/
theorem Process.Announces.message_eq {source : Text} {p : Process} {message : Text}
    {pos : Option Int} {n : Notice} (h : p.Announces source message pos n)
    (hpos : complaints p.recovering.events = [] ∨ 0 ≤ pos.getD 0) :
    n.message = cutLocation message := by
  by_cases hcomplaint : complaints p.recovering.events = []
  · exact h.thrown hcomplaint
  · have hindex : 0 ≤ n.pos := by
      rw [h.pos]
      exact hpos.resolve_left hcomplaint
    obtain ⟨line, column, hplace⟩ := placeIn_natural source hindex
    rw [h.complaint hcomplaint, hplace, cutLocation_located]

/-- **The engine accepts what the grammar alone accepts**, with the same tree, when nothing
was held back before. Where the grammar alone throws a syntax error, the parse fails, and
the first record points at the error's index, with the error's message without the place
behind it; a complaint below index zero would be thrown with a sign in its place, which the
engine cannot cut off, but does not put there either. The offset is that of the file as the
comments before the error have left it: the bytes before the index, unless one of these
comments starts or ends inside a pair. What the grammar alone returns is a tree unless it is
undefined. -/
theorem parseModule_conservative (process : Dialect → Text → Process) (dialect : Dialect)
    (name source : Text) (c : Context) (hheld : c.pipeline.pending = []) :
    let p := process dialect source
    let f := p.fileAfter name source
    let o := (parseModule (fun d s => (process d s).recovering) ⟨dialect, true⟩ name source c).1
    (∀ module, o = .ok module ↔ (p.plain source).ending = .tree module ∧ module ≠ .undefined) ∧
      ∀ message pos raisedAt,
        (p.plain source).ending = .thrown (.syntaxError message pos raisedAt) →
          ∃ d rest, o = .failed ⟨d :: rest⟩ ∧ d.severity = .error ∧ d.file = name ∧
            d.span.lo = f.byteOffset (pos.getD 0) ∧
            ((∀ index ∈ p.asked source, source.insidePair index.toNat = false) → 0 ≤ pos.getD 0 →
              d.span.lo = Utf8.byteLength (source.slice 0 (pos.getD 0))) ∧
            d.loc = placeIn source (pos.getD 0) ∧
            (complaints p.recovering.events ≠ [] → message = located d.message d.loc) ∧
            (complaints p.recovering.events = [] ∨ 0 ≤ pos.getD 0 →
              d.message = cutLocation message) := by
  intro p f o
  have ho : o = verdict (Transcript.ofRun name source true p.recovering).records
      p.recovering.ending :=
    congrArg Prod.fst (parseModule_eq_of_empty _ ⟨dialect, true⟩ name source hheld)
  refine ⟨fun module => ?_, fun message pos raisedAt hthrown => ?_⟩
  · have hok := parseModule_ok_iff (fun d s => (process d s).recovering) ⟨dialect, true⟩ name source
      hheld module
    rw [p.plain_tree_iff source, and_right_comm]
    refine hok.trans ?_
    rw [module_eq_some_iff]
    refine and_congr_right fun hend => ?_
    show notices true p.recovering = [] ↔ _
    rw [notices, show p.recovering.ending = _ from hend.1]
    simp
  · obtain ⟨n, rest, hannounced, hrecords⟩ := Process.recovering_records name hthrown
    have hfailed : o = .failed ⟨n.record f :: rest⟩ := by
      rw [ho, hrecords]
      exact verdict_failed_iff.mpr ⟨rfl, .inr ⟨_, List.mem_cons_self, rfl⟩⟩
    have hloc : (n.record f).loc = placeIn source n.pos := p.fileAfter_position name source n.pos
    rw [← hannounced.pos]
    refine ⟨n.record f, rest, hfailed, rfl, p.fileAfter_name name source, rfl,
      fun houtside hindex => ?_, hloc, fun hcomplaint => ?_, fun hpos => ?_⟩
    · exact congrArg Int.ofNat (p.fileAfter_byteOffset name source houtside hindex)
    · rw [hloc]
      exact hannounced.complaint hcomplaint
    · exact hannounced.message_eq (hannounced.pos ▸ hpos)

/-- An error thrown later, at an earlier index, does not come before a complaint. -/
theorem complaint_before_thrown :
    let p : Process := .comment false [] 0 2
      (.complains 3 "odd" 4 (.throws (.syntaxError "late (1:0)" (some 0) none)))
    let c : Context := {}
    c.pipeline.pending = [] ∧
      (p.plain "//\nx").ending = .thrown (.syntaxError "odd (2:0)" (some 3) (some 4)) ∧
      ∃ d rest, (parseModule (fun _ _ => p.recovering) ⟨.javascript, true⟩ "a.js" "//\nx" c).1 =
          .failed ⟨d :: rest⟩ ∧ d.span.lo = 3 ∧ d.loc = ⟨2, 0⟩ ∧ d.message = "odd" := by
  intro p c
  have hthrown : (p.plain "//\nx").ending =
      .thrown (.syntaxError "odd (2:0)" (some 3) (some 4)) := by
    have hmessage : located "odd" (placeIn "//\nx" 3) = "odd (2:0)" := by decide +kernel
    show Grammar.Ending.thrown (.syntaxError (located "odd" (placeIn "//\nx" 3)) _ _) = _
    rw [hmessage]
  obtain ⟨d, rest, hfailed, _, _, _, hbytes, hloc, _, hmessage⟩ :=
    (parseModule_conservative (fun _ _ => p) .javascript "a.js" "//\nx" c rfl).2 _ _ _ hthrown
  refine ⟨rfl, hthrown, d, rest, hfailed, (hbytes ?_ ?_).trans ?_, hloc.trans ?_,
    (hmessage (.inr ?_)).trans ?_⟩
  all_goals decide +kernel

end EcmaModule.Engine
