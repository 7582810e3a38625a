import EcmaModule.Proofs.CommandLine.Accepted
import EcmaModule.Proofs.CommandLine.Presentation

/-! What the reporting options change.

`--verbose` and `--json` say how a run reports, not what it does. Behind one of them the other
arguments are read as before (`parseArguments_insert`), and a run makes the same parse and then
shows it (`runSource_eq`). So one more verbose option puts statistics in front of what goes to
the error stream, one more `--json` moves the diagnostics of a failed parse from there to the
output, and nothing else changes (`reporting_inert`). -/
namespace EcmaModule.CommandLine

open Utf8 (Bytes)

/-! ### One more argument -/

/-- The options with one more option for a verbose report, for one as JSON, or for both. -/
def Options.reporting (verbose json : Bool) (o : Options) : Options :=
  {o with verbose := o.verbose || verbose, json := o.json || json}

/-- An argument that is such an option, and is taken whatever the others say. -/
def Adds (said : Text) (verbose json : Bool) : Prop :=
  ∀ o, step o said = .ok (o.reporting verbose json)

theorem adds_verbose {said : Text} (h : said ∈ [Text.ofString "--verbose", Text.ofString "-v"]) :
    Adds said true false := by
  have hall : ∀ t ∈ [Text.ofString "--verbose", Text.ofString "-v"],
      Argument.ofText t = .verbose := by
    decide
  intro o
  simp [step, hall said h, Options.reporting]

theorem adds_json : Adds "--json" false true := by
  have hjson : Argument.ofText (Text.ofString "--json") = .json := by decide
  intro o
  simp [step, hjson, Options.reporting]

/-- Other arguments are read as before. -/
theorem step_reporting (verbose json : Bool) (o : Options) (t : Text) :
    step (o.reporting verbose json) t = (step o t).map (Options.reporting verbose json) := by
  unfold step
  cases Argument.ofText t with
  | file name =>
    show (if o.inputFile.isSome then _ else _) = Except.map _ (if o.inputFile.isSome then _ else _)
    split <;> rfl
  | dialect | deps | noDynamic | json | verbose | help | unknown => rfl

theorem foldlM_reporting (verbose json : Bool) (args : List Text) (o : Options) :
    args.foldlM step (o.reporting verbose json) =
      (args.foldlM step o).map (Options.reporting verbose json) := by
  induction args generalizing o with
  | nil => rfl
  | cons t rest ih =>
    rw [List.foldlM_cons, List.foldlM_cons, step_reporting]
    cases step o t with
    | error p => rfl
    | ok o' => exact ih o'

/-! ### Runs that read a file -/

/-- The arguments are valid and ask for no help, and the file among them can be read. -/
structure Reads (read : Text → Except ReadFault Bytes) (args : List Text) (setting : Option Text)
    (o : Options) (name : Text) (bytes : Bytes) : Prop where
  options : parseArguments args setting = .ok o
  unaided : Text.ofString "--help" ∉ args ∧ Text.ofString "-h" ∉ args
  file : positionals args = [name]
  found : read name = .ok bytes

section Runs
variable {read : Text → Except ReadFault Bytes} {args : List Text} {setting : Option Text}
  {o : Options} {name : Text} {bytes : Bytes}

theorem describes_of_ok (h : parseArguments args setting = .ok o) : Describes args setting o := by
  obtain ⟨haccepted, rfl⟩ := parseArguments_accepted_iff.mp h
  exact after_describes haccepted.toClean setting

/-- The options tell whether a file is read. -/
theorem reads_iff : Reads read args setting o name bytes ↔
    parseArguments args setting = .ok o ∧ o.help = false ∧ o.inputFile = some name ∧
      read name = .ok bytes := by
  have htells (hargs : parseArguments args setting = .ok o) :
      (o.help = false ↔ Text.ofString "--help" ∉ args ∧ Text.ofString "-h" ∉ args) ∧
        (o.inputFile = some name ↔ positionals args = [name]) := by
    have hdescribes := describes_of_ok hargs
    rw [← not_or, ← hdescribes.help, Bool.not_eq_true, ← hdescribes.inputFile,
      Option.toList_eq_singleton_iff]
    exact ⟨Iff.rfl, Iff.rfl⟩
  constructor
  · intro h
    exact ⟨h.options, (htells h.options).1.mpr h.unaided, (htells h.options).2.mpr h.file, h.found⟩
  · rintro ⟨hargs, hhelp, hfile, hread⟩
    exact ⟨hargs, (htells hargs).1.mp hhelp, (htells hargs).2.mp hfile, hread⟩

theorem run_reads (grammar : Grammar) (h : Reads read args setting o name bytes) :
    run grammar read args setting = runSource grammar o name (Utf8.decodeLossy bytes) := by
  obtain ⟨hargs, hhelp, hfile, hread⟩ := reads_iff.mp h
  simp only [run, hargs, hhelp, hfile, hread]

/-- Arguments that ask for a file do not get it. -/
theorem unreadable (h : ¬ ∃ o name bytes, Reads read args setting o name bytes)
    (hargs : parseArguments args setting = .ok o) (hhelp : o.help = false)
    (hfile : o.inputFile = some name) :
    ∃ e, read name = .error e := by
  cases hread : read name with
  | error e => exact ⟨e, rfl⟩
  | ok bytes => exact absurd ⟨o, name, bytes, reads_iff.mpr ⟨hargs, hhelp, hfile, hread⟩⟩ h

/-- A run that reads nothing has no output. -/
theorem run_unread (grammar : Grammar)
    (h : ¬ ∃ o name bytes, Reads read args setting o name bytes) :
    (run grammar read args setting).stdout = [] := by
  unfold run
  cases hargs : parseArguments args setting with
  | error p => rfl
  | ok o =>
    simp only
    split
    · next name hhelp hfile =>
      obtain ⟨e, he⟩ := unreadable h hargs hhelp hfile
      rw [he]
    · rfl

theorem Reads.unique {o' : Options} {name' : Text} {bytes' : Bytes}
    (h : Reads read args setting o name bytes) (h' : Reads read args setting o' name' bytes') :
    o' = o ∧ name' = name ∧ bytes' = bytes := by
  have ho := Except.ok.inj (h.options.symm.trans h'.options)
  obtain rfl := List.singleton_inj.mp (h.file.symm.trans h'.file)
  exact ⟨ho.symm, rfl, Except.ok.inj (h'.found.symm.trans h.found)⟩

section Insert
variable {verbose json : Bool} {said : Text} (hsaid : Adds said verbose json)
  (before after : List Text)
include hsaid

theorem foldlM_insert (o : Options) :
    (before ++ said :: after).foldlM step o =
      ((before ++ after).foldlM step o).map (Options.reporting verbose json) := by
  rw [List.foldlM_append, List.foldlM_append]
  cases before.foldlM step o with
  | error p => rfl
  | ok o' =>
    show (said :: after).foldlM step o' = (after.foldlM step o').map _
    rw [List.foldlM_cons, hsaid]
    exact foldlM_reporting verbose json after o'

/-- **One more argument changes the options where there are any**, and an error stays the same. -/
theorem parseArguments_insert (setting : Option Text) :
    parseArguments (before ++ said :: after) setting =
      (parseArguments (before ++ after) setting).map (Options.reporting verbose json) := by
  unfold parseArguments
  cases dialectOf setting with
  | error p => rfl
  | ok d =>
    simp only [foldlM_insert hsaid, bind, Except.bind]
    cases (before ++ after).foldlM step {dialect := d} with
    | error p => rfl
    | ok o =>
      show (if !o.help && o.inputFile.isNone then _ else _) =
        Except.map _ (if !o.help && o.inputFile.isNone then _ else _)
      split <;> rfl

variable {before after}

/-- Behind one more argument the same file is read. -/
theorem run_insert (grammar : Grammar) (h : Reads read (before ++ after) setting o name bytes) :
    run grammar read (before ++ said :: after) setting =
      runSource grammar (o.reporting verbose json) name (Utf8.decodeLossy bytes) := by
  obtain ⟨hargs, hhelp, hfile, hread⟩ := reads_iff.mp h
  have hinserted := parseArguments_insert hsaid before after setting
  rw [hargs] at hinserted
  simp only [run, hinserted, Except.map, Options.reporting, hhelp, hfile, hread]

/-- A run that reads nothing does not change. -/
theorem run_insert_unread (grammar : Grammar)
    (h : ¬ ∃ o name bytes, Reads read (before ++ after) setting o name bytes) :
    run grammar read (before ++ said :: after) setting =
      run grammar read (before ++ after) setting := by
  simp only [run, parseArguments_insert hsaid]
  cases hargs : parseArguments (before ++ after) setting with
  | error p => rfl
  | ok o =>
    simp only [Except.map, Options.reporting]
    split
    · next name hhelp hfile =>
      obtain ⟨e, he⟩ := unreadable h hargs hhelp hfile
      rw [he]
    · rfl

end Insert

end Runs

/-! ### One more option, the same parse -/

section Source
variable (grammar : Grammar) {o : Options} (name source : Text)

/-- One more verbose option puts statistics on top, if there were none. -/
theorem runSource_verbose :
    runSource grammar (o.reporting true false) name source =
      (runSource grammar o name source).headed
        (if o.verbose then [] else statistics (parseOf grammar o name source).2) := by
  have hpresent (parse : Outcome × Context) :
      present (o.reporting true false) parse = present o parse := by
    obtain ⟨_ | _, c⟩ := parse
    · rfl
    · simp only [present, failed, Options.reporting, Bool.or_false]
  have hparse : parseOf grammar (o.reporting true false) name source =
      parseOf grammar o name source := rfl
  rw [runSource_eq, runSource_eq, hparse, hpresent]
  cases hverbose : o.verbose <;> simp [Options.heading, Options.reporting, Result.headed, hverbose]

/-- One more `--json` changes how a parse is presented, below the same heading. -/
theorem runSource_json :
    let parse := parseOf grammar o name source
    runSource grammar (o.reporting false true) name source =
      (present (o.reporting false true) parse).headed (o.heading parse.2) := by
  intro parse
  have hheading : (o.reporting false true).heading parse.2 = o.heading parse.2 := by
    simp [Options.heading, Options.reporting]
  rw [← hheading]
  exact runSource_eq grammar name source

end Source

/-! ### One more reporting option -/

section Reporting
variable (grammar : Grammar) (read : Text → Except ReadFault Bytes) (args : List Text)
  (setting : Option Text)

/-- The status and the output are those of the arguments. Where a file is read and no verbose option
was given, five lines that count what the parse of the file leaves stand in front of the error stream,
a line feed behind each. Elsewhere the error stream is the same too. -/
structure AddsStatistics (result : Result) : Prop where
  status : result.status = (run grammar read args setting).status
  stdout : result.stdout = (run grammar read args setting).stdout
  counted : ∀ o name bytes, Reads read args setting o name bytes →
    Text.ofString "--verbose" ∉ args → Text.ofString "-v" ∉ args →
      result.stderr =
        (counts (parseOf grammar o name (Utf8.decodeLossy bytes)).2).flatMap (· ++ [0x0A]) ++
          (run grammar read args setting).stderr
  otherwise : ((∃ o name bytes, Reads read args setting o name bytes) →
      Text.ofString "--verbose" ∈ args ∨ Text.ofString "-v" ∈ args) →
    result.stderr = (run grammar read args setting).stderr

/-- A file is read, and its parse fails. -/
structure Fails (o : Options) (name : Text) (bytes : Bytes) (f : Failure) : Prop
    extends Reads read args setting o name bytes where
  failed : (parseOf grammar o name (Utf8.decodeLossy bytes)).1 = .failed f

/-- The result is that of the arguments, but where a parse fails its diagnostics are listed on the
output and not rendered on the error stream. -/
structure MovesFailure (result : Result) : Prop where
  status : result.status = (run grammar read args setting).status
  listed : ∀ o name bytes f, Fails grammar read args setting o name bytes f →
    Lists result.stdout f.diagnostics
  unrendered : ∀ o name bytes f, Fails grammar read args setting o name bytes f →
    ∃ rendered, (run grammar read args setting).stderr = result.stderr ++ rendered ∧
      if Text.ofString "--json" ∈ args then rendered = []
      else Renders rendered f.diagnostics (.create (sourceName o name) (Utf8.decodeLossy bytes) 0)
  otherwise : (¬ ∃ o name bytes f, Fails grammar read args setting o name bytes f) →
    result = run grammar read args setting

end Reporting

section Fails
variable {grammar : Grammar} {read : Text → Except ReadFault Bytes} {args : List Text}
  {setting : Option Text} {result : Result}

theorem MovesFailure.unchanged
    (h : ¬ ∃ o name bytes f, Fails grammar read args setting o name bytes f)
    (hsame : result = run grammar read args setting) :
    MovesFailure grammar read args setting result where
  status := congrArg Result.status hsame
  listed o name bytes f hfails := absurd ⟨o, name, bytes, f, hfails⟩ h
  unrendered o name bytes f hfails := absurd ⟨o, name, bytes, f, hfails⟩ h
  otherwise _ := hsame

variable {o : Options} {name : Text} {bytes : Bytes} {f : Failure}

theorem Fails.unique {o' : Options} {name' : Text} {bytes' : Bytes} {f' : Failure}
    (h : Fails grammar read args setting o name bytes f)
    (h' : Fails grammar read args setting o' name' bytes' f') :
    o' = o ∧ name' = name ∧ bytes' = bytes ∧ f' = f := by
  obtain ⟨rfl, rfl, rfl⟩ := h.toReads.unique h'.toReads
  exact ⟨rfl, rfl, rfl, Outcome.failed.inj (h'.failed.symm.trans h.failed)⟩

/-- A failure that is listed instead of being rendered. -/
theorem MovesFailure.moved (h : Fails grammar read args setting o name bytes f)
    (hresult : result = runSource grammar (o.reporting false true) name (Utf8.decodeLossy bytes)) :
    MovesFailure grammar read args setting result := by
  let source := Utf8.decodeLossy bytes
  let c := (parseOf grammar o name source).2
  have hparse : parseOf grammar o name source = (.failed f, c) := Prod.ext h.failed rfl
  have hplain : run grammar read args setting = (failed o c f []).headed (o.heading c) := by
    rw [run_reads grammar h.toReads, runSource_eq, hparse]
    rfl
  have hlisted : result =
      ⟨1, line (Json.print indent (.array (f.diagnostics.map Record.toValue))), o.heading c⟩ := by
    rw [hresult, runSource_json, hparse]
    simp [present, failed, Options.reporting, Result.headed]
  have hstderr : (run grammar read args setting).stderr = o.heading c ++ (failed o c f []).stderr :=
    congrArg Result.stderr hplain
  have hjson := (describes_of_ok h.options).json
  subst hlisted
  refine ⟨?_, ?_, ?_, fun hnone => absurd ⟨o, name, bytes, f, h⟩ hnone⟩
  · rw [hplain]
    exact (failed_status o c f []).symm
  · intro o' name' bytes' f' h'
    obtain ⟨-, -, -, rfl⟩ := h.unique h'
    exact lists_print _
  · intro o' name' bytes' f' h'
    obtain ⟨rfl, rfl, rfl, rfl⟩ := h.unique h'
    refine ⟨_, hstderr, ?_⟩
    cases hasked : o'.json with
    | true =>
      rw [if_pos (hjson.mp hasked), failed, hasked]
      rfl
    | false =>
      rw [if_neg fun hmem => Bool.false_ne_true (hasked.symm.trans (hjson.mpr hmem))]
      exact failed_renders grammar name' source f' hasked

end Fails

section Insertion
variable (grammar : Grammar) (read : Text → Except ReadFault Bytes) (before after : List Text)
  (setting : Option Text)

theorem run_verbose {said : Text} (hsaid : said ∈ [Text.ofString "--verbose", Text.ofString "-v"]) :
    AddsStatistics grammar read (before ++ after) setting
      (run grammar read (before ++ said :: after) setting) := by
  have hadds := adds_verbose hsaid
  by_cases h : ∃ o name bytes, Reads read (before ++ after) setting o name bytes
  · obtain ⟨o, name, bytes, hreads⟩ := h
    have hgiven := (describes_of_ok hreads.options).verbose
    have hadded : run grammar read (before ++ said :: after) setting =
        (run grammar read (before ++ after) setting).headed
          (if o.verbose then [] else statistics (parseOf grammar o name (Utf8.decodeLossy bytes)).2) := by
      rw [run_insert hadds grammar hreads, runSource_verbose, run_reads grammar hreads]
    rw [hadded]
    refine ⟨rfl, rfl, ?_, ?_⟩
    · intro o' name' bytes' hreads' hlong hshort
      obtain ⟨rfl, rfl, rfl⟩ := hreads.unique hreads'
      have hquiet : ¬ o'.verbose = true := fun hverbose => (hgiven.mp hverbose).elim hlong hshort
      rw [if_neg hquiet, statistics_eq]
      rfl
    · intro hloud
      rw [if_pos (hgiven.mpr (hloud ⟨o, name, bytes, hreads⟩))]
      rfl
  · rw [run_insert_unread hadds grammar h]
    exact ⟨rfl, rfl, fun o name bytes hreads => absurd ⟨o, name, bytes, hreads⟩ h, fun _ => rfl⟩

theorem run_json : MovesFailure grammar read (before ++ after) setting
    (run grammar read (before ++ Text.ofString "--json" :: after) setting) := by
  by_cases h : ∃ o name bytes, Reads read (before ++ after) setting o name bytes
  · obtain ⟨o, name, bytes, hreads⟩ := h
    have hinserted := run_insert adds_json grammar hreads
    cases houtcome : (parseOf grammar o name (Utf8.decodeLossy bytes)).1 with
    | failed f => exact .moved ⟨hreads, houtcome⟩ hinserted
    | ok module =>
      have hparse : parseOf grammar o name (Utf8.decodeLossy bytes) = (.ok module, _) :=
        Prod.ext houtcome rfl
      refine .unchanged ?_ ?_
      · rintro ⟨o', name', bytes', f, hfails⟩
        obtain ⟨rfl, rfl, rfl⟩ := hreads.unique hfails.toReads
        rw [hfails.failed] at houtcome
        cases houtcome
      · rw [hinserted, run_reads grammar hreads, runSource_json, runSource_eq, hparse]
        rfl
  · refine .unchanged ?_ (run_insert_unread adds_json grammar h)
    rintro ⟨o, name, bytes, f, hfails⟩
    exact h ⟨o, name, bytes, hfails.toReads⟩

/-- The output of every run is a document. -/
theorem run_document (args : List Text) : IsDocument (run grammar read args setting).stdout := by
  by_cases h : ∃ o name bytes, Reads read args setting o name bytes
  · obtain ⟨o, name, bytes, hreads⟩ := h
    rw [run_reads grammar hreads, runSource_eq]
    exact present_document o fun module => Operation.parsed_defined
  · exact .inl (run_unread grammar h)

end Insertion

/-- **Reporting options change nothing but the report.** Wherever one more verbose option stands
among the arguments, the exit status and the output are the same, and so is the error stream, but
for five lines of statistics in front of it, which are there exactly if a file is read and there was
no such option. Wherever one more `--json` stands, the exit status is the same, and so are both
streams, unless a file is read and its parse fails: then the output is the JSON array of its
diagnostics, in order, and the error stream lacks the diagnostics rendered there before. And the
output of a run is empty, or one JSON text and a line feed. -/
theorem reporting_inert (grammar : Grammar) (read : Text → Except ReadFault Bytes)
    (before after : List Text) (setting : Option Text) :
    (∀ said ∈ [Text.ofString "--verbose", Text.ofString "-v"],
      AddsStatistics grammar read (before ++ after) setting
        (run grammar read (before ++ said :: after) setting)) ∧
    MovesFailure grammar read (before ++ after) setting
      (run grammar read (before ++ Text.ofString "--json" :: after) setting) ∧
    IsDocument (run grammar read (before ++ after) setting).stdout :=
  ⟨fun _ hsaid => run_verbose grammar read before after setting hsaid,
    run_json grammar read before after setting, run_document grammar read setting (before ++ after)⟩

/-- A file that ends too early. The standard grammar refuses it, so each option has something to
report. -/
theorem refusedFile_reported :
    let bytes := Utf8.encode "const ="
    let result (args : List Text) := run Grammar.standard (fun _ => .ok bytes) args none
    let plain := result ["--js", "m.js"]
    IsDocument plain.stdout ∧
    (result ["--js", "-v", "m.js"]).stderr =
      Text.ofString "=== Parse Context ===\nFiles: 1\nComments: 0\nInterned identifiers: 0\nDiagnostics: 1\n" ++
        plain.stderr ∧
    ∃ f : Failure, Lists (result ["--js", "--json", "m.js"]).stdout f.diagnostics ∧
      (result ["--js", "--json", "m.js"]).status = plain.status ∧
      ∃ rendered, plain.stderr = (result ["--js", "--json", "m.js"]).stderr ++ rendered ∧
        Renders rendered f.diagnostics (.create "m.js" (Text.ofString "const =") 0) := by
  intro bytes result plain
  let args : List Text := ["--js", "m.js"]
  let read (_ : Text) : Except ReadFault Bytes := .ok bytes
  let o : Options := {inputFile := some (Text.ofString "m.js"), dialect := .javascript}
  obtain ⟨hverbose, hjson, hdocument⟩ := reporting_inert Grammar.standard read ["--js"] ["m.js"] none
  have hreads : Reads read args none o "m.js" bytes :=
    ⟨by decide, by decide, by decide, rfl⟩
  have hsource : Utf8.decodeLossy bytes = Text.ofString "const =" :=
    Utf8.decodeLossy_encode (Text.paired_ascii (by decide))
  obtain ⟨f, hparse⟩ : ∃ f, (parseOf Grammar.standard o "m.js" "const =").1 = .failed f := by
    cases houtcome : (parseOf Grammar.standard o "m.js" "const =").1 with
    | failed f => exact ⟨f, rfl⟩
    | ok module =>
      have hthrown : (Grammar.standard .javascript "const =").ending.module? = none := by decide +kernel
      have hok :=
        Engine.parseModule_ok_iff Grammar.standard o.configuration "m.js" "const =" (c := {}) rfl module
      exact nomatch hthrown.symm.trans (hok.mp houtcome).1
  have hfails : Fails Grammar.standard read args none o "m.js" bytes f := ⟨hreads, hsource ▸ hparse⟩
  refine ⟨hdocument, ?_, f, hjson.listed _ _ _ _ hfails, hjson.status, ?_⟩
  · have hcounts : (counts (parseOf Grammar.standard o "m.js" "const =").2).flatMap (· ++ [0x0A]) =
        Text.ofString
          "=== Parse Context ===\nFiles: 1\nComments: 0\nInterned identifiers: 0\nDiagnostics: 1\n" := by
      decide +kernel
    have hstderr := (hverbose "-v" (by decide)).counted o _ bytes hreads (by decide) (by decide)
    rw [hsource, hcounts] at hstderr
    exact hstderr
  · obtain ⟨rendered, hrendered, hcase⟩ := hjson.unrendered _ _ _ _ hfails
    have hnew : Text.ofString "--json" ∉
        ([Text.ofString "--js"] ++ [Text.ofString "m.js"] : List Text) := by
      decide
    rw [hsource, if_neg hnew] at hcase
    exact ⟨rendered, hrendered, hcase⟩

end EcmaModule.CommandLine
