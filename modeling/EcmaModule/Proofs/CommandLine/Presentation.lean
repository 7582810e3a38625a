import EcmaModule.CommandLine.Command
import EcmaModule.Proofs.Operation.Agreement
import EcmaModule.Proofs.Operation.Serialize

/-! What a run shows of its parse.

A run on a source is a parse in a context of its own, which is then shown: a module or a list as
JSON on the output, a failure rendered on the error stream or listed on the output, all below
the statistics that were asked for (`runSource_eq`). What is on the output is one JSON text
(`present_document`), and what is rendered shows the lines of the source (`failed_renders`). The
texts themselves are spelled out here once more, line by line, and the command shows just these
(`statistics_eq`, `formatAll_rendering`, `lists_print`). -/
namespace EcmaModule.CommandLine

/-! ### The parse of a run -/

/-- The name that a run gives to its source. -/
def sourceName (o : Options) (name : Text) : Text :=
  if o.deps then Engine.analysisName o.dialect else name

/-- The parse that a run makes. -/
def parseOf (grammar : Grammar) (o : Options) (name source : Text) : Outcome × Context :=
  Engine.parseModule grammar o.configuration (sourceName o name) source {}

/-- What stands on the error stream ahead of all else. -/
def Options.heading (o : Options) (c : Context) : Text := if o.verbose then statistics c else []

def Result.headed (r : Result) (heading : Text) : Result := {r with stderr := heading ++ r.stderr}

/-- A module is shown, or the list of its dependencies. -/
def succeeded (o : Options) (module : Value) : Result :=
  if o.deps then
    { status := 0
      stdout := line (Json.print indent (.array ((Dependency.collect o.dynamic module).map .string))) }
  else
    match Operation.serialize module indent with
    | .error p => crashed p []
    | .ok json => { status := 0, stdout := line (json.getD "undefined") }

/-- What a parse comes to is shown, without a heading. -/
def present (o : Options) : Outcome × Context → Result
  | (.failed f, c) => failed o c f []
  | (.ok module, _) => succeeded o module

theorem crashed_headed (p : Problem) (heading rest : Text) :
    crashed p (heading ++ rest) = (crashed p rest).headed heading := by
  simp [crashed, Result.headed]

theorem failed_status (o : Options) (c : Context) (f : Failure) (stats : Text) :
    (failed o c f stats).status = 1 := by
  unfold failed
  split
  · rfl
  · dsimp only
    split <;> rfl

/-- A failure goes to the error stream, unless it is listed. -/
theorem failed_silent {o : Options} (hjson : o.json = false) (c : Context) (f : Failure) (stats : Text) :
    (failed o c f stats).stdout = [] := by
  rw [failed, hjson, if_neg Bool.false_ne_true]
  dsimp only
  split <;> rfl

theorem failed_headed (o : Options) (c : Context) (f : Failure) (heading : Text) :
    failed o c f heading = (failed o c f []).headed heading := by
  unfold failed
  split
  · simp [Result.headed]
  · simp only
    split
    · simp [Result.headed]
    · exact crashed_headed _ heading _

section Source
variable (grammar : Grammar) {o : Options} (name source : Text)

theorem runSource_deps (hdeps : o.deps = true) :
    let parse := parseOf grammar o name source
    runSource grammar o name source = (present o parse).headed (o.heading parse.2) := by
  intro parse
  have hparse : Engine.parseModule grammar o.configuration
      (Engine.analysisName o.configuration.dialect) source {} = parse := by
    show _ = Engine.parseModule grammar o.configuration (sourceName o name) source {}
    rw [sourceName, hdeps]
    rfl
  simp only [runSource, hdeps, if_true, Engine.analyze, hparse]
  obtain ⟨outcome, c⟩ := parse
  cases outcome with
  | failed f => exact failed_headed o c f _
  | ok module =>
    simp only [present, succeeded, hdeps, if_true, Result.headed, List.append_nil]
    rfl

theorem runSource_module (hdeps : o.deps = false) :
    let parse := parseOf grammar o name source
    runSource grammar o name source = (present o parse).headed (o.heading parse.2) := by
  intro parse
  have hparse : Engine.parseModule grammar o.configuration name source {} = parse := by
    show _ = Engine.parseModule grammar o.configuration (sourceName o name) source {}
    rw [sourceName, hdeps]
    rfl
  simp only [runSource, hdeps, if_neg Bool.false_ne_true, hparse]
  obtain ⟨outcome, c⟩ := parse
  cases outcome with
  | failed f => exact failed_headed o c f _
  | ok module =>
    simp only [present, succeeded, hdeps, if_neg Bool.false_ne_true]
    cases Operation.serialize module indent with
    | error p =>
      have hcrashed := crashed_headed p (o.heading c) []
      rwa [List.append_nil] at hcrashed
    | ok json => simp only [Result.headed, List.append_nil]; rfl

/-- **A run on a source is a parse, which is then shown** below a heading. -/
theorem runSource_eq :
    let parse := parseOf grammar o name source
    runSource grammar o name source = (present o parse).headed (o.heading parse.2) := by
  cases hdeps : o.deps with
  | true => exact runSource_deps grammar name source hdeps
  | false => exact runSource_module grammar name source hdeps

end Source

/-! ### Statistics -/

/-- What is counted of a context, in five lines. -/
def counts (c : Context) : List Text :=
  ["=== Parse Context ===", Text.ofString "Files: " ++ Text.ofNat c.sources.files.length,
    Text.ofString "Comments: " ++ Text.ofNat c.comments.size,
    Text.ofString "Interned identifiers: " ++ Text.ofNat c.atoms.count,
    Text.ofString "Diagnostics: " ++ Text.ofNat c.pipeline.buffer.length]

/-- A line feed stands behind each line. -/
theorem statistics_eq (c : Context) : statistics c = (counts c).flatMap fun l => l ++ [0x0A] := by
  simp only [statistics, counts, line, List.flatMap_cons, List.flatMap_nil, List.append_nil, List.append_assoc]

/-! ### Diagnostics as text -/

/-- A record as it is rendered: what it says, its code and its place; where its file has the line, an
empty line, the line with its number, and a caret below the column; and its notes. -/
def rendering (file : SourceFile) (r : Record) : Text :=
  let number := Text.ofInt r.loc.line
  let said := match r.severity with
    | .error => Text.ofString "Error: " ++ r.message
    | .warning => Text.ofString "Warning: " ++ r.message
  let place := r.file ++ Text.ofString ":" ++ number ++ Text.ofString ":" ++ Text.ofInt r.loc.column
  let excerpt := match file.lineText? r.loc.line with
    | none => []
    | some shown => [[], number ++ Text.ofString " | " ++ shown,
        List.replicate number.length 0x20 ++ Text.ofString " | " ++
          List.replicate r.loc.column.toNat 0x20 ++ Text.ofString "^"]
  List.intercalate (Text.ofString "\n")
    ([said, Text.ofString "Code: " ++ r.code, Text.ofString "Location: " ++ place] ++ excerpt ++
      r.labels.map fun l => Text.ofString "  note: " ++ l.message)

/-- The caret would stand left of a line that is there. -/
def Misplaced (file : SourceFile) (r : Record) : Prop :=
  r.loc.column < 0 ∧ (file.lineText? r.loc.line).isSome = true

theorem format_rendering {file : SourceFile} {r : Record} (h : ¬ Misplaced file r) :
    Snippet.format? r (some file) = some (rendering file r) := by
  unfold Snippet.format? rendering
  simp only [Option.bind_some]
  cases hline : file.lineText? r.loc.line with
  | none => cases r.severity <;> rfl
  | some shown =>
    have hcolumn : ¬ r.loc.column < 0 := fun hleft => h ⟨hleft, by rw [hline]; rfl⟩
    have hexcerpt : Snippet.excerpt? r.loc shown = some _ := if_neg hcolumn
    simp only [hexcerpt]
    cases r.severity <;> rfl

/-- There is no text only where the caret has no place. -/
theorem format_eq_none_iff {file : SourceFile} {r : Record} :
    Snippet.format? r (some file) = none ↔ Misplaced file r := by
  constructor
  · intro hnone
    by_contra h
    rw [format_rendering h] at hnone
    cases hnone
  · rintro ⟨hcolumn, hline⟩
    obtain ⟨shown, hshown⟩ := Option.isSome_iff_exists.mp hline
    simp [Snippet.format?, hshown, Snippet.excerpt?, hcolumn]

theorem formatAll_rendering {file : SourceFile} {rs : List Record} (h : ∀ r ∈ rs, ¬ Misplaced file r) :
    Snippet.formatAll? rs (some file) =
      some (List.intercalate (Text.ofString "\n\n") (rs.map (rendering file))) := by
  have hall : rs.mapM (fun r => Snippet.format? r (some file)) = some (rs.map (rendering file)) := by
    induction rs with
    | nil => rfl
    | cons r rest ih =>
      rw [List.mapM_cons, format_rendering (h r List.mem_cons_self),
        ih fun r' hr' => h r' (List.mem_cons_of_mem r hr')]
      rfl
  rw [Snippet.formatAll?, hall]
  rfl

theorem formatAll_misplaced {file : SourceFile} {rs : List Record} {r : Record} (hr : r ∈ rs)
    (h : Misplaced file r) : Snippet.formatAll? rs (some file) = none := by
  have hall : rs.mapM (fun r => Snippet.format? r (some file)) = none := by
    induction rs with
    | nil => cases hr
    | cons first rest ih =>
      rw [List.mapM_cons]
      rcases List.mem_cons.mp hr with rfl | hr
      · rw [format_eq_none_iff.mpr h]
        rfl
      · rw [ih hr]
        cases Snippet.format? first (some file) <;> rfl
  rw [Snippet.formatAll?, hall]
  rfl

/-- The diagnostics of a failure as they are shown on a terminal: between empty lines, and with an
empty line between two of them. Behind the first empty line the run ends if the caret of one of them
has no place. -/
structure Renders (t : Text) (records : List Record) (file : SourceFile) : Prop where
  rendered : (∀ r ∈ records, ¬ Misplaced file r) →
    t = [0x0A] ++ List.intercalate (Text.ofString "\n\n") (records.map (rendering file)) ++ [0x0A, 0x0A]
  misplaced : (∃ r ∈ records, Misplaced file r) →
    ∃ r ∈ records, Misplaced file r ∧
      t = [0x0A] ++ Text.ofString "RangeError: Invalid count value: " ++ Text.ofInt r.loc.column ++ [0x0A]

/-- The lines shown are those of the source, wherever its file lies and whatever was asked of it. -/
theorem format_parsed (grammar : Grammar) (o : Options) (name source : Text) (r : Record) :
    Snippet.format? r (parseOf grammar o name source).2.sources.files.getLast? =
      Snippet.format? r (some (.create (sourceName o name) source 0)) := by
  let file := SourceFile.create (sourceName o name) source 0
  have hparse := Engine.parseModule_eq_of_empty grammar o.configuration (sourceName o name) source (c := {}) rfl
  rw [parseOf, hparse, Engine.parsed_files, List.getLast?_concat]
  obtain ⟨cursor, hfile⟩ := file.resolveAll_eq
    (Engine.Transcript.ofRun (sourceName o name) source o.configuration.dynamicImport
      (grammar o.configuration.dialect source)).asked
  rw [hfile]
  rfl

theorem formatAll_parsed (grammar : Grammar) (o : Options) (name source : Text) (rs : List Record) :
    Snippet.formatAll? rs (parseOf grammar o name source).2.sources.files.getLast? =
      Snippet.formatAll? rs (some (.create (sourceName o name) source 0)) := by
  simp only [Snippet.formatAll?, format_parsed]

/-- The first caret without a place ends the rendering. -/
theorem exists_first_misplaced {file : SourceFile} {rs : List Record} (h : ∃ r ∈ rs, Misplaced file r) :
    ∃ r ∈ rs, Misplaced file r ∧ rs.find? (fun r => (Snippet.format? r (some file)).isNone) = some r := by
  obtain ⟨r, hr, hmisplaced⟩ := h
  have hsome : (rs.find? fun r => (Snippet.format? r (some file)).isNone).isSome = true :=
    List.find?_isSome.mpr ⟨r, hr, Option.isNone_iff_eq_none.mpr (format_eq_none_iff.mpr hmisplaced)⟩
  obtain ⟨first, hfirst⟩ := Option.isSome_iff_exists.mp hsome
  have hnone : (Snippet.format? first (some file)).isNone = true := by simpa using List.find?_some hfirst
  exact ⟨first, List.mem_of_find?_eq_some hfirst,
    format_eq_none_iff.mp (Option.isNone_iff_eq_none.mp hnone), hfirst⟩

/-- A failure is rendered where it is not listed. -/
theorem failed_renders (grammar : Grammar) {o : Options} (name source : Text) (f : Failure)
    (hjson : o.json = false) :
    Renders (failed o (parseOf grammar o name source).2 f []).stderr f.diagnostics
      (.create (sourceName o name) source 0) where
  rendered hplaced := by
    have hshown := formatAll_rendering hplaced
    rw [← formatAll_parsed grammar] at hshown
    simp only [failed, hjson, if_neg Bool.false_ne_true, hshown]
    simp [line]
  misplaced h := by
    obtain ⟨first, hmem, hmisplaced, hfirst⟩ := exists_first_misplaced h
    refine ⟨first, hmem, hmisplaced, ?_⟩
    have hformat := formatAll_misplaced hmem hmisplaced
    rw [← formatAll_parsed grammar] at hformat
    simp only [failed, hjson, if_neg Bool.false_ne_true, hformat, format_parsed, hfirst]
    simp [crashed, line, Problem.invalidCount, Problem.name, Problem.message]
    rfl

/-! ### Output -/

/-- Nothing, or one JSON text and a line feed. -/
def IsDocument (t : Text) : Prop := t = [] ∨ ∃ json v, t = json ++ [0x0A] ∧ Json.read? json = some v

theorem indent_blank : Json.Blank indent := Operation.gapOf_blank (.int 2)

/-- A record as an object, its numbers written one way or another. -/
def listed (number : Int → Value) (r : Record) : Value :=
  let span (s : Span) : Value := .object [("lo", number s.lo), ("hi", number s.hi)]
  let severity := match r.severity with
    | .error => Text.ofString "error"
    | .warning => Text.ofString "warning"
  .object [("code", .string r.code), ("severity", .string severity), ("message", .string r.message),
    ("file", .string r.file), ("span", span r.span),
    ("loc", .object [("line", number r.loc.line), ("column", number r.loc.column)]),
    ("labels", .array (r.labels.map fun l => .object [("span", span l.span), ("message", .string l.message)]))]

/-- The text is the records, as one JSON array with two spaces a level and a line feed behind it, and
is read as these records. Numbers are read as they are up to the bound of exact ones. -/
structure Lists (t : Text) (records : List Record) : Prop where
  text : t = Json.print (Text.ofString "  ") (.array (records.map (listed fun n => .number (.ofInt n)))) ++ [0x0A]
  array : ∃ number : Int → Value, (∀ n, n.natAbs < 2 ^ 53 → number n = .number (.int n)) ∧
    ∃ json, t = json ++ [0x0A] ∧ Json.read? json = some (.array (records.map (listed number)))

theorem toValue_listed (r : Record) : r.toValue = listed (fun n => .number (.ofInt n)) r := by
  obtain ⟨code, severity, message, file, span, loc, labels⟩ := r
  cases severity <;> rfl

/-- An object whose fields all have a text is carried field by field. -/
theorem carried_object {fields : Value.Fields} (hshown : ∀ f ∈ fields, Json.isShown f.2 = true)
    (hordered : Value.Ordered fields) :
    Json.carried (.object fields) = .object (fields.map fun f => (f.1, Json.carried f.2)) := by
  have hkeys : Value.Ordered (fields.map fun f => (f.1, Json.carried f.2)) := by
    rw [Value.Ordered, List.map_map]
    exact hordered
  rw [Json.carried, Json.carriedFields_filter, List.filter_eq_self.mpr hshown]
  exact Value.ofFields_of_ordered hkeys

/-- What is read of a listed record is the record, with the numbers that are read. -/
theorem carried_listed (r : Record) :
    Json.carried (listed (fun n => .number (.ofInt n)) r) =
      listed (fun n => Json.carriedNumber (.ofInt n)) r := by
  have hspan (s : Span) : Json.carried s.toValue = .object
      [("lo", Json.carriedNumber (.ofInt s.lo)), ("hi", Json.carriedNumber (.ofInt s.hi))] :=
    carried_object (by simp [Json.isShown])
      (show List.Pairwise Value.Precedes [Text.ofString "lo", Text.ofString "hi"] by decide)
  have hplace (p : Position) : Json.carried p.toValue = .object
      [("line", Json.carriedNumber (.ofInt p.line)), ("column", Json.carriedNumber (.ofInt p.column))] :=
    carried_object (by simp [Json.isShown])
      (show List.Pairwise Value.Precedes [Text.ofString "line", Text.ofString "column"] by decide)
  have hlabel (l : Label) : Json.carried l.toValue = .object
      [("span", Json.carried l.span.toValue), ("message", .string l.message)] :=
    carried_object (by simp [Json.isShown, Span.toValue])
      (show List.Pairwise Value.Precedes [Text.ofString "span", Text.ofString "message"] by decide)
  have hlabels : Json.carriedItems (r.labels.map Label.toValue) =
      r.labels.map fun l => .object [("span", Json.carried l.span.toValue), ("message", .string l.message)] := by
    rw [Json.carriedItems_map, List.map_map]
    exact List.map_congr_left fun l _ => hlabel l
  have hkeys : List.Pairwise Value.Precedes [Text.ofString "code", Text.ofString "severity",
      Text.ofString "message", Text.ofString "file", Text.ofString "span", Text.ofString "loc",
      Text.ofString "labels"] := by
    decide
  have hcarried : Json.carried r.toValue = _ :=
    carried_object (by simp [Json.isShown, Span.toValue, Position.toValue]) hkeys
  rw [← toValue_listed, hcarried]
  simp only [List.map_cons, List.map_nil, hspan, hplace, Json.carried, hlabels, listed]
  cases r.severity <;> rfl

theorem lists_print (records : List Record) :
    Lists (line (Json.print indent (.array (records.map Record.toValue)))) records where
  text := by
    rw [List.map_congr_left fun r _ => toValue_listed r]
    rfl
  array := by
    refine ⟨fun n => Json.carriedNumber (.ofInt n), fun n hn => ?_, _, rfl, ?_⟩
    · have hint : Number.ofInt n = .int n := if_pos hn
      simp only [hint]
      exact Value.carriedNumber_eq hn
    · rw [List.map_congr_left fun r _ => toValue_listed r, Json.read_print indent_blank, Json.carried,
        Json.carriedItems_map, List.map_map]
      exact congrArg (some ∘ Value.array) (List.map_congr_left fun r _ => carried_listed r)

theorem present_document (o : Options) {parse : Outcome × Context}
    (hdefined : ∀ module, parse.1 = .ok module → module ≠ .undefined) :
    IsDocument (present o parse).stdout := by
  have hprint (v : Value) : IsDocument (line (Json.print indent v)) :=
    .inr ⟨_, _, rfl, Json.read_print indent_blank v⟩
  obtain ⟨outcome, c⟩ := parse
  cases outcome with
  | failed f =>
    cases hjson : o.json with
    | true =>
      rw [present, failed, hjson]
      exact hprint _
    | false => exact .inl (failed_silent hjson c f [])
  | ok module =>
    rw [present, succeeded]
    split
    · exact hprint _
    · cases htext : Operation.serialize module indent with
      | error p => exact .inl rfl
      | ok json =>
        have hcyclic := Operation.serialize_ok_iff.mp ⟨json, htext⟩
        rw [Operation.serialize_ok (hdefined module rfl) hcyclic] at htext
        obtain rfl := Except.ok.inj htext
        exact hprint module

end EcmaModule.CommandLine
