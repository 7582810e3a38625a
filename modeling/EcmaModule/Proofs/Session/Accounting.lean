import EcmaModule.Proofs.Session.Client

/-! The records of a whole session.

A parse appends to the buffer what it raises, and what it raises is what its failure
carries; a success raises nothing. So as long as a client of a new context only parses,
the buffer is the failures one behind the other, however the parses are nested
(`run_accounted`), and no two failures share a record of it (`existsUnique_block`). -/
namespace EcmaModule.Session

open Engine

/-! ### Blocks of a list -/

section Block
variable {α : Type}

/-- Where the `k`-th of some lists starts when they stand one behind the other. -/
def blockStart (ls : List (List α)) (k : Nat) : Nat := (ls.take k).flatten.length

/-- The index falls into the `k`-th of some lists that stand one behind the other. -/
def InBlock (ls : List (List α)) (k i : Nat) : Prop :=
  ∃ l, ls[k]? = some l ∧ blockStart ls k ≤ i ∧ i < blockStart ls k + l.length

theorem blockStart_succ {ls : List (List α)} {k : Nat} {l : List α} (h : ls[k]? = some l) :
    blockStart ls (k + 1) = blockStart ls k + l.length := by
  simp [blockStart, List.take_add_one, h]

theorem blockStart_mono {ls : List (List α)} {j k : Nat} (h : j ≤ k) : blockStart ls j ≤ blockStart ls k := by
  have hsplit := List.take_append_drop j (ls.take k)
  rw [List.take_take, Nat.min_eq_left h] at hsplit
  rw [blockStart, blockStart, ← hsplit, List.flatten_append, List.length_append]
  exact Nat.le_add_right _ _

theorem exists_inBlock {ls : List (List α)} {i : Nat} (h : i < ls.flatten.length) : ∃ k, InBlock ls k i := by
  induction ls generalizing i with
  | nil => simp at h
  | cons l rest ih =>
    by_cases hi : i < l.length
    · exact ⟨0, l, rfl, Nat.zero_le i, by simpa [blockStart] using hi⟩
    · rw [List.flatten_cons, List.length_append] at h
      have hrest : i - l.length < rest.flatten.length := by omega
      obtain ⟨k, m, hm, hstart, hstop⟩ := ih hrest
      have hnext : blockStart (l :: rest) (k + 1) = l.length + blockStart rest k := by
        simp [blockStart]
      exact ⟨k + 1, m, hm, by omega, by omega⟩

theorem inBlock_unique {ls : List (List α)} {i j k : Nat} (hj : InBlock ls j i) (hk : InBlock ls k i) :
    j = k := by
  obtain ⟨l, hl, hlstart, hlstop⟩ := hj
  obtain ⟨m, hm, hmstart, hmstop⟩ := hk
  have hlnext := blockStart_succ hl
  have hmnext := blockStart_succ hm
  rcases Nat.lt_trichotomy j k with hlt | heq | hgt
  · have hmono : blockStart ls (j + 1) ≤ blockStart ls k := blockStart_mono hlt
    omega
  · exact heq
  · have hmono : blockStart ls (k + 1) ≤ blockStart ls j := blockStart_mono hgt
    omega

/-- An index falls into one of the lists, and into one only. -/
theorem existsUnique_block {ls : List (List α)} {i : Nat} (h : i < ls.flatten.length) :
    ∃! k, InBlock ls k i := by
  obtain ⟨k, hk⟩ := exists_inBlock h
  exact ⟨k, hk, fun j hj => inBlock_unique hj hk⟩

end Block

/-! ### What a parse adds -/

/-- The records a parse is answerable for: those of its failure. -/
def Parse.diagnostics (p : Parse) : List Record := p.failure?.toList.flatMap Failure.diagnostics

/-- A parse answers for what it raises. -/
theorem Request.parseIn_diagnostics (r : Request) {c : Context} (hheld : c.pipeline.pending = []) :
    (r.parseIn c).diagnostics = r.transcript.records := by
  rw [Parse.diagnostics, Request.parseIn, r.register_eq_parsed hheld]
  cases ho : verdict r.transcript.records r.run.ending with
  | ok module =>
    have hnone := (verdict_ok_iff.mp ho).2
    exact (List.eq_nil_iff_forall_not_mem.mpr fun d hd => hnone d hd (r.transcript_error d hd)).symm
  | failed failure =>
    have hall := (verdict_failed_iff.mp ho).1
    simpa [failureOf?] using hall

/-- What a parse raises lies in its own file. -/
theorem Request.transcript_file (r : Request) : ∀ d ∈ r.transcript.records, d.file = r.name := by
  have hrecorded := ofRun_recordedAs r.name r.source r.config.dynamicImport r.run
  have hfile := hrecorded.flip.imp fun d n (h : Notice.RecordedAs r.name r.source n d) =>
    And.intro h.file h
  exact ((List.forall₂_and_left _ _).mp hfile).1

theorem flatMap_diagnostics (ps : List Parse) :
    ps.flatMap Parse.diagnostics = ((ps.filterMap Parse.failure?).map Failure.diagnostics).flatten := by
  induction ps with
  | nil => rfl
  | cons p rest ih =>
    rw [List.flatMap_cons, ih, Parse.diagnostics]
    cases h : p.failure? with
    | none => simp [h]
    | some failure => simp [h]

/-! ### What a session adds up to -/

/-- The buffer is what the parses answer for, nothing is held back, and every record lies
in the file of its parse. -/
structure Accounted (ps : List Parse) (c : Context) : Prop where
  held : c.pipeline.pending = []
  buffer : c.pipeline.buffer = ps.flatMap Parse.diagnostics
  own : ∀ p ∈ ps, ∀ d ∈ p.diagnostics, d.file = p.request.name

theorem fresh_accounted (flags : HandlerFlags) : Accounted [] (Context.fresh flags) where
  held := rfl
  buffer := rfl
  own := by
    intro p hp
    cases hp

theorem Accounted.parse {ps : List Parse} {c : Context} (h : Accounted ps c) (r : Request) :
    Accounted (ps ++ [r.parseIn c]) (r.register c).2 := by
  have hdiagnostics := r.parseIn_diagnostics h.held
  have hpipeline := parsed_pipeline r.transcript_error r.name r.source (Pipeline.orderly_of_empty h.held)
  rw [h.held, List.append_nil] at hpipeline
  rw [r.register_eq_parsed h.held]
  refine ⟨?_, ?_, fun p hp d hd => ?_⟩
  · rw [hpipeline]
  · rw [hpipeline, h.buffer, List.flatMap_append, List.flatMap_singleton, hdiagnostics]
  · rcases List.mem_append.mp hp with hp | hp
    · exact h.own p hp d hd
    · rw [List.mem_singleton.mp hp] at hd ⊢
      rw [hdiagnostics] at hd
      exact r.transcript_file d hd

theorem Ran.accounted {first c : Context} {ps : List Parse} (hran : Ran first ps c)
    (h : Accounted [] first) : Accounted ps c := by
  induction hran with
  | start => exact h
  | atoms a _ ih => exact ⟨ih.held, ih.buffer, ih.own⟩
  | parse r _ ih => exact ih.parse r

/-- **No record is lost or reported twice.** After a run of a client that only parses, on a
new context, nothing is held back, and the buffer is the diagnostics of the failures, in
the order in which they were determined. So each record of it belongs to one failure, and
to one only; and each failure has records of its own parse's file alone. -/
theorem run_accounted {ε α : Type} (flags : HandlerFlags) (client : Client ε α) :
    let c := (client.run (Context.fresh flags)).2
    let ps := client.parses (Context.fresh flags)
    let failed := (ps.filterMap Parse.failure?).map Failure.diagnostics
    c.pipeline.pending = [] ∧ c.pipeline.buffer = failed.flatten ∧
      (∀ i < c.pipeline.buffer.length, ∃! k, InBlock failed k i) ∧
      ∀ p ∈ ps, ∀ failure, p.failure? = some failure →
        ∀ d ∈ failure.diagnostics, d.file = p.request.name := by
  intro c ps failed
  have hran : Ran (Context.fresh flags) ps c := run_ran client .start
  have haccounted := hran.accounted (fresh_accounted flags)
  have hbuffer : c.pipeline.buffer = failed.flatten := haccounted.buffer.trans (flatMap_diagnostics ps)
  refine ⟨haccounted.held, hbuffer, fun i hi => ?_, fun p hp failure hfailure d hd => ?_⟩
  · rw [hbuffer] at hi
    exact existsUnique_block hi
  · refine haccounted.own p hp d ?_
    rw [Parse.diagnostics, hfailure]
    simpa using hd

/-- A continuation parses again and throws; the failure around it stands first. -/
example :
    let broken (message : Text) : Request :=
      ⟨fun _ _ => ⟨[.complaint 0 message], .thrown (.other "fault")⟩, {}, message, []⟩
    let client : Client Unit Unit :=
      .parseThen (broken "a") (fun _ => .parse (broken "b") fun _ => .done (.error ()))
        fun _ => .parse (broken "c") fun _ => .done (.ok ())
    let c := (client.run (Context.fresh {dontBufferDiagnostics := false})).2
    c.pipeline.pending = [] ∧
      c.pipeline.buffer.map (·.file) = (["a", "a", "b", "b", "c", "c"] : List String).map Text.ofString := by
  decide

end EcmaModule.Session
