import EcmaModule.Proofs.Engine.Placement
import EcmaModule.Proofs.Session.Isolation

/-! Comments that are read again.

A grammar that looks ahead reads comments more than once, in any order, and may report errors
in between. What a parse stores of them is the first reading of every start, in the order of these
first readings (`parseModule_comments`). The store tells starts apart by the bytes before them,
which the cursor of the file has counted; still no comment is taken for another one, since
different boundaries of a source have different bytes before them. -/
namespace EcmaModule

namespace Engine

/-! ### Readings -/

/-- A comment as the grammar reads it, between two indices. -/
structure Reading where
  isBlock : Bool
  text : Text
  start : Int
  stop : Int

namespace Reading

def ofEvent? : Grammar.Event → Option Reading
  | .comment isBlock text start stop => some ⟨isBlock, text, start, stop⟩
  | .complaint _ _ => none

/-- The comment that is stored of a reading. -/
def comment (source : Text) (r : Reading) : Comment :=
  ⟨if r.isBlock then .block else .line, r.text, .between source r.start r.stop⟩

theorem comment_lo (source : Text) (r : Reading) :
    (r.comment source).span.lo = Utf8.byteLength (source.slice 0 r.start) := rfl

end Reading

/-- The readings of a run. -/
def readings (events : List Grammar.Event) : List Reading := events.filterMap Reading.ofEvent?

theorem mem_readings {events : List Grammar.Event} {r : Reading} (h : r ∈ readings events) :
    .comment r.isBlock r.text r.start r.stop ∈ events := by
  obtain ⟨e, he, hr⟩ := List.mem_filterMap.mp h
  cases e with
  | comment isBlock text start stop =>
    obtain rfl := Option.some.inj hr
    exact he
  | complaint pos message => cases hr

/-- What events on boundaries leave in the file of a run are the comments of its readings. -/
theorem comments_readings (name : Text) {source : Text} (dynamicImport : Bool) {run : Grammar.Run}
    (h : ∀ e ∈ run.events, (Act.ofEvent e).Bounded source) :
    (Transcript.ofRun name source dynamicImport run).comments =
      (readings run.events).map (Reading.comment source) := by
  have hreading (e : Grammar.Event) :
      (Act.ofEvent e).comment? source = (Reading.ofEvent? e).map (Reading.comment source) := by
    cases e <;> rfl
  rw [comments_ofRun name dynamicImport h, readings, List.map_filterMap]
  exact List.filterMap_congr fun e _ => hreading e

/-! ### First readings -/

/-- The readings with a start that none before them has. -/
def firstReadings (rs : List Reading) : List Reading :=
  (rs.zipIdx.filter fun p => (rs.take p.2).all fun r => r.start != p.1.start).map Prod.fst

section FirstReadings
variable (rs : List Reading) (r : Reading)

/-- What is read last is first at its start only if the start is new. -/
theorem firstReadings_concat :
    firstReadings (rs ++ [r]) =
      firstReadings rs ++ if (rs.all fun q => q.start != r.start) = true then [r] else [] := by
  have hbefore : ∀ p ∈ rs.zipIdx,
      (((rs ++ [r]).take p.2).all fun q => q.start != p.1.start) =
        ((rs.take p.2).all fun q => q.start != p.1.start) := by
    intro p hp
    have hlt := List.snd_lt_of_mem_zipIdx hp
    rw [List.take_append_of_le_length (by omega)]
  rw [firstReadings, List.zipIdx_append, List.filter_append, List.filter_congr hbefore, List.map_append]
  congr 1
  split <;> simp_all

/-- Every start that is read has a first reading. -/
theorem mem_starts_iff (start : Int) :
    start ∈ (firstReadings rs).map Reading.start ↔ start ∈ rs.map Reading.start := by
  induction rs using List.reverseRecOn with
  | nil => rfl
  | append_singleton rs r ih =>
    rw [firstReadings_concat, List.map_append, List.mem_append, ih, List.map_append, List.mem_append]
    split
    · rfl
    · next hread =>
      obtain ⟨q, hq, hstart⟩ : ∃ q ∈ rs, q.start = r.start := by simpa using hread
      refine or_congr_right' fun hnew => ?_
      refine iff_of_false List.not_mem_nil fun hlast => hnew ?_
      rw [List.map_singleton, List.mem_singleton] at hlast
      rw [hlast, ← hstart]
      exact List.mem_map_of_mem hq

/-- No start has two first readings. -/
theorem starts_nodup : ((firstReadings rs).map Reading.start).Nodup := by
  induction rs using List.reverseRecOn with
  | nil => exact List.nodup_nil
  | append_singleton rs r ih =>
    rw [firstReadings_concat, List.map_append]
    split
    · next hnew =>
      refine List.nodup_append.mpr ⟨ih, List.nodup_singleton _, fun start hstart last hlast heq => ?_⟩
      obtain ⟨q, hq, hsame⟩ := List.mem_map.mp ((mem_starts_iff rs start).mp hstart)
      rw [List.map_singleton, List.mem_singleton] at hlast
      have hdifferent := List.all_eq_true.mp hnew q hq
      simp [hsame, heq, hlast] at hdifferent
    · rw [List.map_nil, List.append_nil]
      exact ih

end FirstReadings

section Boundaries
variable {source : Text} {rs : List Reading} (h : ∀ r ∈ rs, source.Boundary r.start)
include h

/-- Readings at different starts are told apart by their bytes. -/
theorem start_eq_of_lo {q r : Reading} (hq : q ∈ rs) (hr : source.Boundary r.start)
    (hlo : (q.comment source).span.lo = (r.comment source).span.lo) : q.start = r.start :=
  (h q hq).eq_of_byteLength hr (Int.ofNat_inj.mp hlo)

/-- A comment with the bytes of a reading is stored if and only if its start was read before. -/
theorem stored_iff {r : Reading} (hr : source.Boundary r.start) :
    (∃ k ∈ (firstReadings rs).map (Reading.comment source), k.span.lo = (r.comment source).span.lo) ↔
      ∃ q ∈ rs, q.start = r.start := by
  constructor
  · rintro ⟨k, hk, hlo⟩
    obtain ⟨q, hq, rfl⟩ := List.mem_map.mp hk
    obtain ⟨p, hp, hstart⟩ := List.mem_map.mp ((mem_starts_iff rs q.start).mp (List.mem_map_of_mem hq))
    refine ⟨p, hp, start_eq_of_lo h hp hr ?_⟩
    rw [← hlo, Reading.comment_lo, Reading.comment_lo, hstart]
  · rintro ⟨q, hq, hstart⟩
    obtain ⟨p, hp, hfirst⟩ := List.mem_map.mp ((mem_starts_iff rs q.start).mpr (List.mem_map_of_mem hq))
    refine ⟨p.comment source, List.mem_map_of_mem hp, ?_⟩
    rw [Reading.comment_lo, Reading.comment_lo, hfirst, hstart]

end Boundaries

/-- **The store keeps the first reading of every start.** -/
theorem keepAll_readings {source : Text} {rs : List Reading} (h : ∀ r ∈ rs, source.Boundary r.start) :
    (rs.map (Reading.comment source)).foldl CommentStore.keep [] =
      (firstReadings rs).map (Reading.comment source) := by
  induction rs using List.reverseRecOn with
  | nil => rfl
  | append_singleton rs r ih =>
    have hfront : ∀ q ∈ rs, source.Boundary q.start := fun q hq => h q (List.mem_append_left _ hq)
    have hstored := stored_iff hfront (h r (List.mem_append_right _ (List.mem_singleton_self r)))
    rw [List.map_append, List.foldl_append, ih hfront, List.map_singleton, List.foldl_cons, List.foldl_nil,
      CommentStore.keep, firstReadings_concat, List.map_append]
    by_cases hread : ∃ q ∈ rs, q.start = r.start
    · have hheld := hstored.mpr hread
      rw [if_pos (by simpa using hheld), if_neg (by simpa using hread), List.map_nil, List.append_nil]
    · have hfree := mt hstored.mp hread
      rw [if_neg (by simpa using hfree), if_pos (by simpa using hread), List.map_singleton]

end Engine

namespace Session

open Engine

/-- **Comments that are read again are stored once, and none is taken for another.** Suppose that the
comments and the errors that a grammar reports on its way lie at boundaries of the source, in
whatever order, however often it comes back, and however it ends. Then a parse in any context
that a session can reach stores for its file the first reading of every start that was read, in
order, with the kind and the text of that reading and the bytes between its indices for a span.
As different starts have different bytes before them, each start has one comment of its own.
Comments of other files stay as they are. Whatever a store is given, it is kept if its file has no
comment with its start, and other files stay as they are; the size of a store is what its files
have together. -/
theorem parseModule_comments (grammar : Grammar) (config : Configuration) (name source : Text)
    {c : Context} (hreached : Reached c)
    (hbounded : ∀ e ∈ (grammar config.dialect source).events, (Act.ofEvent e).Bounded source) :
    let rs := readings (grammar config.dialect source).events
    let file := c.sources.files.length
    let stored := (parseModule grammar config name source c).2.comments
    stored.forFile file = (firstReadings rs).map (Reading.comment source) ∧
      ((firstReadings rs).map Reading.start).Nodup ∧
      (∀ start, start ∈ (firstReadings rs).map Reading.start ↔ start ∈ rs.map Reading.start) ∧
      (∀ q ∈ rs, ∀ r ∈ rs, q.start ≠ r.start →
        (q.comment source).span.lo ≠ (r.comment source).span.lo) ∧
      (∀ other, other ≠ some file → stored.ofFile other = c.comments.ofFile other) ∧
      ∀ (s : CommentStore) (file : Option Nat) (k : Comment),
        (s.add file k).ofFile file = CommentStore.keep (s.ofFile file) k ∧
          (∀ other, other ≠ file → (s.add file k).ofFile other = s.ofFile other) ∧
          s.size = ∑ file ∈ s.files, (s.ofFile file).length := by
  intro rs file stored
  let t := Transcript.ofRun name source config.dynamicImport (grammar config.dialect source)
  have hstarts : ∀ r ∈ rs, source.Boundary r.start := fun r hr =>
    hbounded _ (mem_readings hr) r.start (by simp [Act.ofEvent, Act.asked])
  have hparsed : stored = (parsed t name source c).comments :=
    congrArg (fun parse => parse.2.comments) (parseModule_reported grammar config name source c)
  have hcomments : t.comments = rs.map (Reading.comment source) :=
    comments_readings name config.dynamicImport hbounded
  refine ⟨?_, starts_nodup rs, mem_starts_iff rs, fun q hq r hr hne hlo => ?_, fun other hother => ?_,
    fun s file k => ⟨s.ofFile_add file k, fun other hother => ?_, s.size_eq_sum⟩⟩
  · rw [hparsed, parsed_comments t name source hreached.tidy.numbered, hcomments, keepAll_readings hstarts]
  · exact hne (start_eq_of_lo hstarts hq (hstarts r hr) hlo)
  · rw [hparsed]
    exact CommentStore.ofFile_addAll_other c.comments hother.symm t.comments
  · exact CommentStore.ofFile_add_other s hother.symm k

/-- Two comments behind characters of two and of four bytes, the second one read first and each one
read twice, in the second file of a session. -/
theorem rereadComments_stored :
    let own : Grammar := fun _ _ => ⟨[.comment false "x" 0 3], .tree .null⟩
    let c := (step own (Context.fresh {}) (.parse "a.js" "//x" {} .library)).2
    let source : Text := [0xE9, 0x2F, 0x2F, 0x78, 0xD834, 0xDD1E, 0x2F, 0x2A, 0x2A, 0x2F]
    let grammar : Grammar := fun _ _ =>
      ⟨[.comment true [] 6 10, .complaint 4 "odd", .comment false "x" 1 4, .comment false "late" 6 8,
        .comment true "later" 1 10], .thrown (.other "fault")⟩
    (∀ e ∈ (grammar .typescript source).events, (Act.ofEvent e).Bounded source) ∧
      (parseModule grammar {} "b.js" source c).2.comments.forFile 1 =
        [⟨.block, [], ⟨9, 13⟩⟩, ⟨.line, "x", ⟨2, 5⟩⟩] := by
  intro own c source grammar
  have hreached : Reached c := .step own _ (.fresh _)
  have hbounded : ∀ e ∈ (grammar .typescript source).events, (Act.ofEvent e).Bounded source := by decide
  refine ⟨hbounded, (parseModule_comments grammar {} "b.js" source hreached hbounded).1.trans ?_⟩
  decide

end Session

end EcmaModule
