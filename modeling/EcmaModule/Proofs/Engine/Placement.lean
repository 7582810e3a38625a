import EcmaModule.Proofs.Engine.Outcome

/-! Where a parse places what it reports.

A boundary of a text is an index within it that splits no surrogate pair. As long as a
grammar reports boundaries only, the cursor of the file never matters: every span is the
byte range of the two indices reported for it, whichever way the grammar went back and
forth, and a run leaves behind what its acts would leave behind one by one in a file
that was never asked (`ofActs_bounded`). -/
namespace EcmaModule

namespace Text

/-- An index of a text, its end included, that is not inside a pair. -/
structure Boundary (t : Text) (index : Int) : Prop where
  nonneg : 0 ≤ index
  within : index ≤ t.length
  outside : t.insidePair index.toNat = false

/-- Two boundaries, the first not behind the second. -/
structure Range (t : Text) (start stop : Int) : Prop where
  lower : t.Boundary start
  upper : t.Boundary stop
  ordered : start ≤ stop

instance (t : Text) (index : Int) : Decidable (t.Boundary index) :=
  decidable_of_iff (0 ≤ index ∧ index ≤ t.length ∧ t.insidePair index.toNat = false)
    ⟨fun ⟨h₁, h₂, h₃⟩ => ⟨h₁, h₂, h₃⟩, fun h => ⟨h.nonneg, h.within, h.outside⟩⟩

instance (t : Text) (start stop : Int) : Decidable (t.Range start stop) :=
  decidable_of_iff (t.Boundary start ∧ t.Boundary stop ∧ start ≤ stop)
    ⟨fun ⟨h₁, h₂, h₃⟩ => ⟨h₁, h₂, h₃⟩, fun h => ⟨h.lower, h.upper, h.ordered⟩⟩

theorem boundary_zero (t : Text) : t.Boundary 0 where
  nonneg := Int.le_refl 0
  within := Int.natCast_nonneg _
  outside := by simp [insidePair, endsHigh]

theorem Boundary.range {t : Text} {index : Int} (h : t.Boundary index) : t.Range index index :=
  ⟨h, h, Int.le_refl index⟩

/-- **Boundaries are told apart by the bytes before them.** -/
theorem Boundary.eq_of_byteLength {t : Text} {a b : Int} (ha : t.Boundary a) (hb : t.Boundary b)
    (h : Utf8.byteLength (t.slice 0 a) = Utf8.byteLength (t.slice 0 b)) : a = b := by
  rcases Int.lt_trichotomy a b with hlt | heq | hgt
  · have := Utf8.byteLength_slice_lt ha.outside ha.nonneg hlt hb.within
    omega
  · exact heq
  · have := Utf8.byteLength_slice_lt hb.outside hb.nonneg hgt ha.within
    omega

end Text

/-- The bytes between two indices of a text. -/
def Span.between (t : Text) (start stop : Int) : Span :=
  ⟨Utf8.byteLength (t.slice 0 start), Utf8.byteLength (t.slice 0 stop)⟩

theorem Span.between_ordered {t : Text} {start stop : Int} (h : t.Range start stop) :
    (Span.between t start stop).lo ≤ (Span.between t start stop).hi :=
  Int.ofNat_le.mpr (Utf8.byteLength_slice_mono h.lower.outside h.lower.nonneg h.ordered)

theorem Span.between_within {t : Text} {start stop : Int} (h : t.Range start stop) :
    (Span.between t start stop).hi ≤ Utf8.byteLength t := by
  have hmono := Utf8.byteLength_slice_mono h.upper.outside h.upper.nonneg h.upper.within
  rw [Text.slice_zero, List.take_length] at hmono
  exact Int.ofNat_le.mpr hmono

namespace Engine

/-! ### Placed runs -/

/-- A run reports boundaries of the source only, and ranges where it reports two indices.
What is thrown may name no index, and an import counts only where it is refused. -/
structure Placed (source : Text) (dynamicImport : Bool) (run : Grammar.Run) : Prop where
  comment : ∀ isBlock text start stop, .comment isBlock text start stop ∈ run.events →
    source.Range start stop
  complaint : ∀ pos message, .complaint pos message ∈ run.events → source.Boundary pos
  thrown : ∀ message pos raisedAt, run.ending = .thrown (.syntaxError message pos raisedAt) →
    (∀ index ∈ pos, source.Boundary index) ∧ ∀ index ∈ raisedAt, source.Boundary index
  refused : dynamicImport = false → ∀ module, run.ending = .tree module →
    ∀ v ∈ Tree.visits module, isDynamicImport v = true →
      source.Range v.node.start.toIndex v.node.stop.toIndex

/-- An act on a range of the source, if it has a place at all. -/
def Act.Placed (source : Text) : Act → Prop
  | comment _ _ start stop => source.Range start stop
  | notice n => source.Range n.pos n.stop
  | identifier _ => True

/-- An act that asks for boundaries of the source only, in any order. -/
def Act.Bounded (source : Text) (a : Act) : Prop := ∀ index ∈ a.asked, source.Boundary index

instance (source : Text) (a : Act) : Decidable (a.Bounded source) :=
  inferInstanceAs (Decidable (∀ index ∈ a.asked, source.Boundary index))

theorem Act.Placed.bounded {source : Text} {a : Act} (h : a.Placed source) : a.Bounded source := by
  have htwo {start stop : Int} (hrange : source.Range start stop) :
      ∀ index ∈ [start, stop], source.Boundary index :=
    List.forall_mem_cons.mpr ⟨hrange.lower, List.forall_mem_singleton.mpr hrange.upper⟩
  cases a with
  | comment isBlock text start stop => exact htwo h
  | notice n => exact htwo h
  | identifier name => exact nofun

theorem ofThrown_placed {source : Text} {what : Grammar.Thrown}
    (h : ∀ message pos raisedAt, what = .syntaxError message pos raisedAt →
      (∀ index ∈ pos, source.Boundary index) ∧ ∀ index ∈ raisedAt, source.Boundary index) :
    source.Range (Act.ofThrown what).pos (Act.ofThrown what).stop := by
  cases what with
  | other message => exact source.boundary_zero.range
  | syntaxError message pos raisedAt =>
    obtain ⟨hpos, hraised⟩ := h message pos raisedAt rfl
    have hstart : source.Boundary (pos.getD 0) := by
      cases pos with
      | none => exact source.boundary_zero
      | some index => exact hpos index rfl
    have hstop : source.Boundary (raisedAt.getD (pos.getD 0)) := by
      cases raisedAt with
      | none => exact hstart
      | some index => exact hraised index rfl
    show source.Range (pos.getD 0) (max (pos.getD 0) (raisedAt.getD (pos.getD 0)))
    rcases Int.le_total (pos.getD 0) (raisedAt.getD (pos.getD 0)) with hle | hle
    · rw [Int.max_eq_right hle]
      exact ⟨hstart, hstop, hle⟩
    · rw [Int.max_eq_left hle]
      exact hstart.range

/-- A visit interns a name, or refuses an import, or is no act. -/
theorem ofVisit_cases {dynamicImport : Bool} {v : Tree.Visit} {a : Act}
    (h : Act.ofVisit? dynamicImport v = some a) :
    (∃ name, a = .identifier name) ∨
      (dynamicImport = false ∧ isDynamicImport v = true ∧ a = .notice (Act.refused v.node)) := by
  unfold Act.ofVisit? at h
  split at h
  · exact .inl ⟨_, (Option.some.inj h).symm⟩
  · split at h
    · next hrefused =>
      obtain ⟨hkind, hoff⟩ := Bool.and_eq_true_iff.mp hrefused
      exact .inr ⟨(Bool.not_eq_true' _).mp hoff, hkind, (Option.some.inj h).symm⟩
    · cases h

theorem ofVisit_placed {source : Text} {dynamicImport : Bool} {v : Tree.Visit} {a : Act}
    (ha : Act.ofVisit? dynamicImport v = some a)
    (h : dynamicImport = false → isDynamicImport v = true →
      source.Range v.node.start.toIndex v.node.stop.toIndex) : a.Placed source := by
  obtain ⟨name, rfl⟩ | ⟨hoff, hkind, rfl⟩ := ofVisit_cases ha
  · trivial
  · exact h hoff hkind

/-- Every act of a placed run is placed. -/
theorem Placed.acts {source : Text} {dynamicImport : Bool} {run : Grammar.Run}
    (h : Placed source dynamicImport run) : ∀ a ∈ Act.ofRun dynamicImport run, a.Placed source := by
  intro a ha
  rcases List.mem_append.mp ha with hevent | hending
  · obtain ⟨e, he, rfl⟩ := List.mem_map.mp hevent
    cases e with
    | comment isBlock text start stop => exact h.comment isBlock text start stop he
    | complaint pos message => exact (h.complaint pos message he).range
  · cases hend : run.ending with
    | thrown what =>
      rw [hend] at hending
      obtain rfl := List.mem_singleton.mp hending
      exact ofThrown_placed fun message pos raisedAt hwhat =>
        h.thrown message pos raisedAt (hend.trans (congrArg _ hwhat))
    | tree module =>
      rw [hend] at hending
      obtain ⟨v, hv, hact⟩ := List.mem_filterMap.mp hending
      exact ofVisit_placed hact fun hoff => h.refused hoff module hend v hv

/-! ### Transcripts of placed acts -/

/-- The indices asked for so far are boundaries, and the cursor was left by them. -/
structure Settled (f : SourceFile) (asked : List Int) : Prop where
  tracked : f.Tracked asked
  outside : ∀ m ∈ asked, f.source.insidePair m.toNat = false

theorem create_settled (name source : Text) (startPos : Nat) :
    Settled (.create name source startPos) [] where
  tracked := SourceFile.create_tracked name source startPos
  outside := by
    intro m hm
    cases hm

theorem Settled.resolve {f : SourceFile} {asked : List Int} (h : Settled f asked) {index : Int}
    (hindex : f.source.Boundary index) : Settled (f.resolve index) (asked ++ [index]) where
  tracked := SourceFile.resolve_tracked h.tracked index
  outside := by
    intro m hm
    rcases List.mem_append.mp hm with hm | hm
    · exact h.outside m hm
    · rw [List.mem_singleton.mp hm]
      exact hindex.outside

/-- **The span between two boundaries is their bytes**, whatever was asked before. -/
theorem Settled.spanOf {f : SourceFile} {asked : List Int} (h : Settled f asked) {start stop : Int}
    (hstart : f.source.Boundary start) (hstop : f.source.Boundary stop) :
    spanOf f start stop = .between f.source start stop := by
  have hlo := SourceFile.byteOffset_outside h.tracked h.outside hstart.nonneg
  have hnext := h.resolve hstart
  have hhi := SourceFile.byteOffset_outside hnext.tracked hnext.outside hstop.nonneg
  rw [Engine.spanOf, hlo, hhi]
  rfl

theorem Settled.resolveAll {f : SourceFile} {asked : List Int} (h : Settled f asked) (more : List Int)
    (hmore : ∀ index ∈ more, f.source.Boundary index) : Settled (f.resolveAll more) (asked ++ more) := by
  induction more generalizing f asked with
  | nil =>
    rw [List.append_nil]
    exact h
  | cons index rest ih =>
    have hnext := h.resolve (hmore index List.mem_cons_self)
    have hrest := ih hnext fun later hlater => hmore later (List.mem_cons_of_mem index hlater)
    rwa [List.append_assoc] at hrest

theorem Settled.acts {f : SourceFile} {asked : List Int} (h : Settled f asked) (acts : List Act)
    (hacts : ∀ a ∈ acts, a.Bounded f.source) :
    Settled (f.resolveAll (acts.flatMap Act.asked)) (asked ++ acts.flatMap Act.asked) := by
  refine h.resolveAll _ fun index hindex => ?_
  obtain ⟨a, ha, hasked⟩ := List.mem_flatMap.mp hindex
  exact hacts a ha index hasked

/-- The record of a notice with the bytes between its indices for a span. -/
def Notice.exact (f : SourceFile) (n : Notice) : Record :=
  {n.record f with span := .between f.source n.pos n.stop}

/-- The comment an act stands for, with the bytes between its indices for a span. -/
def Act.comment? (source : Text) : Act → Option Comment
  | comment isBlock text start stop =>
    some ⟨if isBlock then .block else .line, text, .between source start stop⟩
  | _ => none

/-- What a settled file records of acts on boundaries. No record and no comment shows the cursor
that its act has found. -/
theorem ofActs_bounded {f : SourceFile} {asked : List Int} (h : Settled f asked) (acts : List Act)
    (hacts : ∀ a ∈ acts, a.Bounded f.source) :
    (Transcript.ofActs f acts).records = (acts.filterMap Act.notice?).map (Notice.exact f) ∧
      (Transcript.ofActs f acts).comments = acts.filterMap (Act.comment? f.source) := by
  induction acts generalizing f asked with
  | nil => exact ⟨rfl, rfl⟩
  | cons a rest ih =>
    have ha := hacts a List.mem_cons_self
    obtain ⟨cursor, hmoved⟩ := SourceFile.resolveAll_eq f a.asked
    have hnext := h.resolveAll a.asked ha
    rw [hmoved] at hnext
    obtain ⟨hrecords, hcomments⟩ := ih hnext fun b hb => hacts b (List.mem_cons_of_mem a hb)
    rw [Transcript.ofActs, hmoved]
    cases a with
    | comment isBlock text start stop =>
      have hspan := h.spanOf (ha start (by simp [Act.asked])) (ha stop (by simp [Act.asked]))
      refine ⟨hrecords, ?_⟩
      show Comment.mk _ text (Engine.spanOf f start stop) :: _ = _
      rw [hspan, hcomments]
      rfl
    | notice n =>
      have hspan := h.spanOf (ha n.pos (by simp [Act.asked])) (ha n.stop (by simp [Act.asked]))
      refine ⟨?_, hcomments⟩
      show n.record f :: _ = n.exact f :: _
      rw [hrecords, Notice.exact, ← hspan]
      rfl
    | identifier name => exact ⟨hrecords, hcomments⟩

/-- Acts without comments leave none behind. -/
theorem comments_quiet (source : Text) (f : SourceFile) {acts : List Act}
    (h : ∀ a ∈ acts, a.comment? source = none) : (Transcript.ofActs f acts).comments = [] := by
  induction acts generalizing f with
  | nil => rfl
  | cons a rest ih =>
    have hrest := ih (f.resolveAll a.asked) fun b hb => h b (List.mem_cons_of_mem a hb)
    cases a with
    | comment isBlock text start stop => cases h _ List.mem_cons_self
    | notice n => exact hrest
    | identifier name => exact hrest

theorem comments_ofEnding (f : SourceFile) (dynamicImport : Bool) (ending : Grammar.Ending) :
    (Transcript.ofActs f (Act.ofEnding dynamicImport ending)).comments = [] := by
  refine comments_quiet f.source f fun a ha => ?_
  cases ending with
  | thrown what =>
    rw [List.mem_singleton.mp ha]
    rfl
  | tree module =>
    obtain ⟨v, -, hact⟩ := List.mem_filterMap.mp ha
    obtain ⟨name, rfl⟩ | ⟨-, -, rfl⟩ := ofVisit_cases hact <;> rfl

/-- **Comments come from the events of a run, not from its ending.** If the events ask for
boundaries only, there is one exact comment for each that is delivered, in order. -/
theorem comments_ofRun (name : Text) {source : Text} (dynamicImport : Bool) {run : Grammar.Run}
    (h : ∀ e ∈ run.events, (Act.ofEvent e).Bounded source) :
    (Transcript.ofRun name source dynamicImport run).comments =
      run.events.filterMap fun e => (Act.ofEvent e).comment? source := by
  have hevents : ∀ a ∈ run.events.map Act.ofEvent, a.Bounded source := List.forall_mem_map.mpr h
  have hfront := (ofActs_bounded (create_settled name source 0) _ hevents).2
  rw [Transcript.ofRun, Act.ofRun, Transcript.ofActs_append]
  show (Transcript.ofActs _ _).comments ++ (Transcript.ofActs _ _).comments = _
  rw [hfront, comments_ofEnding, List.append_nil, List.filterMap_map]
  rfl

/-- **What a placed run records**: one exact record for each notice, and one exact comment
for each comment that is delivered, in order. -/
theorem ofRun_placed (name : Text) {source : Text} {dynamicImport : Bool} {run : Grammar.Run}
    (h : Placed source dynamicImport run) :
    let t := Transcript.ofRun name source dynamicImport run
    t.records = (notices dynamicImport run).map (Notice.exact (.create name source 0)) ∧
      t.comments = run.events.filterMap fun e => (Act.ofEvent e).comment? source := by
  have hbounded : ∀ a ∈ Act.ofRun dynamicImport run, a.Bounded source := fun a ha => (h.acts a ha).bounded
  have hrecords := (ofActs_bounded (create_settled name source 0) _ hbounded).1
  rw [notices_ofRun] at hrecords
  exact ⟨hrecords, comments_ofRun name dynamicImport fun e he =>
    hbounded _ (List.mem_append_left _ (List.mem_map_of_mem he))⟩

end Engine

end EcmaModule
