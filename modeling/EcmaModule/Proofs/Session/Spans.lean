import EcmaModule.Proofs.Comment
import EcmaModule.Proofs.Engine.Placement
import EcmaModule.Proofs.Session.Accounting
import EcmaModule.Proofs.Session.Isolation
import EcmaModule.Proofs.SourceMap.Registry

/-! Spans of a whole session.

A parse adds a file behind the others, and comments of that file alone; what earlier
parses have left stays as it is (`Ran.assembled`). So if the grammar only reports
boundaries of its sources, every record and every comment of a session has exactly the
bytes that were reported for a span, and the source map finds both ends of it in the file
of the parse that reported it (`run_spans`). -/
namespace EcmaModule.Session

open Engine

/-! ### What parses leave behind -/

/-- A parse has left its file and the comments of that file in a context. -/
structure Left (p : Parse) (c : Context) : Prop where
  file : ∃ startPos, c.sources.files[p.number]? =
    some {(SourceFile.create p.request.name p.request.source 0).resolveAll p.request.transcript.asked with
      startPos := startPos}
  comments : c.comments.forFile p.number = p.request.transcript.comments.foldl CommentStore.keep []
  diagnostics : p.diagnostics = p.request.transcript.records

/-- The files and comments of a context are those its parses have left, file by file. -/
structure Assembled (ps : List Parse) (c : Context) : Prop where
  laid : SourceMap.Laid 0 c.sources.files
  numbers : ps.map Parse.number = List.range c.sources.files.length
  comments : ∀ e ∈ c.comments.entries, ∃ p ∈ ps, e.1 = some p.number
  left : ∀ p ∈ ps, Left p c

theorem fresh_assembled (flags : HandlerFlags) : Assembled [] (Context.fresh flags) where
  laid := .nil 0
  numbers := rfl
  comments := by
    intro e he
    cases he
  left := by
    intro p hp
    cases hp

theorem Assembled.number_lt {ps : List Parse} {c : Context} (h : Assembled ps c) {p : Parse}
    (hp : p ∈ ps) : p.number < c.sources.files.length := by
  have hmem := List.mem_map_of_mem (f := Parse.number) hp
  rw [h.numbers] at hmem
  exact List.mem_range.mp hmem

theorem Assembled.parse {ps : List Parse} {c : Context} (h : Assembled ps c)
    (hheld : c.pipeline.pending = []) (r : Request) :
    Assembled (ps ++ [r.parseIn c]) (r.register c).2 := by
  have hfiles := parsed_files r.transcript r.name r.source c
  have hnumbered : ∀ e ∈ c.comments.entries, ∀ n, e.1 = some n → n < c.sources.files.length := by
    intro e he n hn
    obtain ⟨p, hp, hnumber⟩ := h.comments e he
    rw [Option.some.inj (hn.symm.trans hnumber)]
    exact h.number_lt hp
  rw [r.register_eq_parsed hheld]
  refine ⟨?_, ?_, fun e he => ?_, fun p hp => ?_⟩
  · rw [hfiles]
    exact h.laid.concat (SourceMap.nextStart_eq c.sources)
  · rw [hfiles, List.map_append, h.numbers, List.length_append, List.length_singleton,
      List.range_succ]
    rfl
  · rcases CommentStore.mem_addAll he with hold | hnew
    · obtain ⟨p, hp, hnumber⟩ := h.comments e hold
      exact ⟨p, List.mem_append_left _ hp, hnumber⟩
    · exact ⟨r.parseIn c, List.mem_append_right _ (List.mem_singleton_self _), hnew⟩
  · rcases List.mem_append.mp hp with hp | hp
    · -- An earlier parse: its file stands before the new one, its comments bear another number.
      have hlt := h.number_lt hp
      obtain ⟨⟨startPos, hfile⟩, hcomments, hdiagnostics⟩ := h.left p hp
      exact ⟨⟨startPos, parsed_file r.transcript r.name r.source c hfile⟩,
        (parsed_comments_other r.transcript r.name r.source c hlt).trans hcomments, hdiagnostics⟩
    · obtain rfl := List.mem_singleton.mp hp
      refine ⟨⟨c.sources.nextStart, ?_⟩, ?_, r.parseIn_diagnostics hheld⟩
      · rw [hfiles]
        exact List.getElem?_concat_length
      · exact parsed_comments r.transcript r.name r.source hnumbered

/-- **Parses only add**: a run leaves what each of its parses has left. -/
theorem Ran.assembled {first c : Context} {ps : List Parse} (hran : Ran first ps c)
    (haccounted : Accounted [] first) (h : Assembled [] first) : Assembled ps c := by
  induction hran with
  | start => exact h
  | atoms a _ ih =>
    refine ⟨ih.laid, ih.numbers, ih.comments, fun p hp => ?_⟩
    obtain ⟨hfile, hcomments, hdiagnostics⟩ := ih.left p hp
    exact ⟨hfile, hcomments, hdiagnostics⟩
  | parse r hran ih => exact ih.parse (hran.accounted haccounted).held r

/-! ### Exact spans -/

/-- A span is made of the bytes between two indices of a file, lies within it, and is found
in that file by its global offsets. -/
structure Exact (m : SourceMap) (number : Nat) (f : SourceFile) (start stop : Int) (s : Span) : Prop where
  lo : s.lo = Utf8.byteLength (f.source.slice 0 start)
  hi : s.hi = Utf8.byteLength (f.source.slice 0 stop)
  nonneg : 0 ≤ s.lo
  ordered : s.lo ≤ s.hi
  within : s.hi ≤ f.byteLength
  found_lo : m.lookup (f.startPos + s.lo) = some ⟨number, s.lo⟩
  found_hi : m.lookup (f.startPos + s.hi) = some ⟨number, s.hi⟩

theorem exact_between {m : SourceMap} (hlaid : SourceMap.Laid 0 m.files) {number : Nat} {f : SourceFile}
    (hf : m.files[number]? = some f) {start stop : Int} (h : f.source.Range start stop) :
    Exact m number f start stop (.between f.source start stop) := by
  have hordered := Span.between_ordered h
  have hwithin : (Span.between f.source start stop).hi ≤ f.byteLength := by
    rw [f.byteLength_eq]
    exact Span.between_within h
  exact ⟨rfl, rfl, Int.natCast_nonneg _, hordered, hwithin,
    SourceMap.lookup_inside hlaid hf (Int.ofNat_le.mp (Int.le_trans hordered hwithin)),
    SourceMap.lookup_inside hlaid hf (Int.ofNat_le.mp hwithin)⟩

/-- A record says where its notice points, in a file of a source map. -/
structure RecordAt (m : SourceMap) (number : Nat) (f : SourceFile) (n : Notice) (d : Record) : Prop where
  code : d.code = n.code.name
  file : d.file = f.name
  loc : d.loc = f.position n.pos
  span : Exact m number f n.pos n.stop d.span

/-- A comment is one of those that were delivered, in a file of a source map. -/
def CommentAt (m : SourceMap) (number : Nat) (f : SourceFile) (events : List Grammar.Event)
    (k : Comment) : Prop :=
  ∃ isBlock text start stop, .comment isBlock text start stop ∈ events ∧
    k.kind = (if isBlock then .block else .line) ∧ k.text = text ∧ Exact m number f start stop k.span

/-- Every notice of a placed run concerns a range of the source. -/
theorem notices_placed {source : Text} {dynamicImport : Bool} {run : Grammar.Run}
    (h : Placed source dynamicImport run) :
    ∀ n ∈ notices dynamicImport run, source.Range n.pos n.stop := by
  intro n hn
  rw [← notices_ofRun] at hn
  obtain ⟨a, ha, hnotice⟩ := List.mem_filterMap.mp hn
  cases a with
  | notice m =>
    obtain rfl : m = n := Option.some.inj hnotice
    exact h.acts _ ha
  | comment isBlock text start stop => cases hnotice
  | identifier name => cases hnotice

/-- **Every span is exact.** Suppose that on each parse of a client of a new context the
grammar reports boundaries of the source only. Then, when the client has run, each parse
has a file of its own, with one record for each of its notices, at the line and column
and with the span of the indices reported, and with comments that were delivered, with the
span of their indices. A span lies within its file, and the source map finds both of its
ends there. There are no other records, and no other comments. -/
theorem run_spans {ε α : Type} (flags : HandlerFlags) (client : Client ε α)
    (hplaced : ∀ p ∈ client.parses (Context.fresh flags),
      Placed p.request.source p.request.config.dynamicImport p.request.run) :
    let c := (client.run (Context.fresh flags)).2
    let ps := client.parses (Context.fresh flags)
    ps.map Parse.number = List.range c.sources.files.length ∧
      (∀ p ∈ ps, ∃ f, c.sources.files[p.number]? = some f ∧
        f.name = p.request.name ∧ f.source = p.request.source ∧
        List.Forall₂ (RecordAt c.sources p.number f)
          (notices p.request.config.dynamicImport p.request.run) p.diagnostics ∧
        ∀ k ∈ c.comments.forFile p.number, CommentAt c.sources p.number f p.request.run.events k) ∧
      (∀ d ∈ c.pipeline.buffer, ∃ p ∈ ps, d ∈ p.diagnostics) ∧
      ∀ e ∈ c.comments.entries, ∃ p ∈ ps, e.1 = some p.number := by
  intro c ps
  have hran : Ran (Context.fresh flags) ps c := run_ran client .start
  have haccounted := hran.accounted (fresh_accounted flags)
  have h := hran.assembled (fresh_accounted flags) (fresh_assembled flags)
  refine ⟨h.numbers, fun p hp => ?_, fun d hd => ?_, h.comments⟩
  · obtain ⟨⟨startPos, hfile⟩, hcomments, hdiagnostics⟩ := h.left p hp
    obtain ⟨cursor, hresolved⟩ := SourceFile.resolveAll_eq
      (.create p.request.name p.request.source 0) p.request.transcript.asked
    rw [hresolved] at hfile
    obtain ⟨hrecords, hdelivered⟩ := ofRun_placed p.request.name (hplaced p hp)
    refine ⟨_, hfile, rfl, rfl, ?_, fun k hk => ?_⟩
    · rw [hdiagnostics]
      show List.Forall₂ _ _ (Transcript.ofRun _ _ _ _).records
      rw [hrecords, List.forall₂_map_right_iff, List.forall₂_same]
      exact fun n hn => ⟨rfl, rfl, rfl, exact_between h.laid hfile (notices_placed (hplaced p hp) n hn)⟩
    · rw [hcomments] at hk
      rcases CommentStore.mem_keepAll hk with hnone | hk
      · cases hnone
      · have hk : k ∈ (Transcript.ofRun _ _ _ _).comments := hk
        rw [hdelivered] at hk
        obtain ⟨e, he, hact⟩ := List.mem_filterMap.mp hk
        cases e with
        | complaint pos message => cases hact
        | comment isBlock text start stop =>
          obtain rfl := Option.some.inj hact
          exact ⟨isBlock, text, start, stop, he, rfl, rfl,
            exact_between h.laid hfile ((hplaced p hp).comment isBlock text start stop he)⟩
  · rw [haccounted.buffer] at hd
    exact List.mem_flatMap.mp hd

/-- A fault behind two-byte and four-byte characters, and a refused import that its
continuation meets in another file before it throws. -/
theorem spans_acrossFiles :
    let broken : Request := ⟨fun _ _ => ⟨[.comment true "é" 0 1, .complaint 4 "odd"],
      .thrown (.syntaxError "bad" (some 2) (some 4))⟩, {}, "a.js", [0xE9, 0x0A, 0xD834, 0xDD1E]⟩
    let tree := Value.object [("type", .string "ImportExpression"), ("start", .number (.int 2)),
      ("end", .number (.int 11))]
    let refused : Request := ⟨fun _ _ => ⟨[], .tree tree⟩, ⟨.javascript, false⟩, "b.js", "é;import(x)"⟩
    let client : Client Unit Unit := .parseThen broken
      (fun _ => .parse refused fun _ => .done (.error ())) fun _ => .done (.ok ())
    let c := (client.run (Context.fresh {})).2
    (∀ p ∈ client.parses (Context.fresh {}),
      Placed p.request.source p.request.config.dynamicImport p.request.run) ∧
    ∃ f, c.sources.files[1]? = some f ∧ f.name = Text.ofString "b.js" ∧
      c.sources.lookup (f.startPos + 12) = some ⟨1, 12⟩ := by
  intro broken tree refused client c
  have hbroken : Placed broken.source true broken.run := by
    refine ⟨fun isBlock text start stop h => ?_, fun pos message h => ?_, fun message pos raisedAt h => ?_,
      fun hoff => absurd hoff (by decide)⟩
    · rcases List.mem_cons.mp h with heq | h
      · cases heq
        decide
      · cases List.mem_singleton.mp h
    · rcases List.mem_cons.mp h with heq | h
      · cases heq
      · cases List.mem_singleton.mp h
        decide
    · cases h
      exact ⟨by decide, by decide⟩
  have hrefused : Placed refused.source false refused.run := by
    refine ⟨fun isBlock text start stop h => absurd h List.not_mem_nil,
      fun pos message h => absurd h List.not_mem_nil, fun message pos raisedAt h => ?_,
      fun _ module h v hv _ => ?_⟩
    · cases h
    · cases h
      cases List.mem_singleton.mp hv
      decide
  have hparses : (client.parses (Context.fresh {})).map Parse.request = [broken, refused] := rfl
  have hplaced : ∀ p ∈ client.parses (Context.fresh {}),
      Placed p.request.source p.request.config.dynamicImport p.request.run := by
    intro p hp
    have hmem := List.mem_map_of_mem (f := Parse.request) hp
    rw [hparses] at hmem
    rcases List.mem_cons.mp hmem with heq | hmem
    · rw [heq]
      exact hbroken
    · rw [List.mem_singleton.mp hmem]
      exact hrefused
  obtain ⟨-, hps, -, -⟩ := run_spans {} client hplaced
  obtain ⟨f, hf, hname, hsource, hrecords, -⟩ :=
    hps ((client.parses (Context.fresh {}))[1]) (List.getElem_mem _)
  obtain ⟨d, _, hd, -, -⟩ := List.forall₂_cons_left_iff.mp hrecords
  have hhi : d.span.hi = 12 := by
    rw [hd.span.hi, hsource]
    decide
  have hfound := hd.span.found_hi
  rw [hhi] at hfound
  exact ⟨hplaced, f, hf, hname, hfound⟩

end EcmaModule.Session
