import EcmaModule.Proofs.CommandLine.Arguments

/-! Which argument lists are accepted.

An argument list is accepted by what is in it, not by where it stands: all that starts with a dash
is an option, there is one other argument at most, and there is one unless help is asked for.
The options say what is there (`Describes`), so arguments may stand in any order that leaves
the grammars among them in theirs. Only an error depends on the order: it is about the first
argument that is refused (`parseArguments_unordered`). -/
namespace EcmaModule.CommandLine

/-! ### What a list of arguments holds -/

/-- The spellings of all options. -/
def optionNames : List Text :=
  ["--ts", "--js", "--deps", "-d", "--no-dynamic", "--json", "--verbose", "-v", "--help", "-h"]

/-- What the environment variable may hold, if it is there. -/
def settings : List (Option Text) := [none, some [], some (Text.ofString "ts"), some (Text.ofString "js")]

/-- The arguments that do not start with a dash. -/
def positionals (args : List Text) : List Text := args.filter fun a => !a.startsWith "-"

/-- The arguments that ask for a grammar. -/
def grammarNames (args : List Text) : List Text := args.filter fun a => a == "--ts" || a == "--js"

def optionDialect (a : Text) : Dialect := if a = "--js" then .javascript else .typescript

def settingDialect (setting : Option Text) : Dialect :=
  if setting = some (Text.ofString "js") then .javascript else .typescript

/-- All options are known, and there is no second file. -/
structure Clean (args : List Text) : Prop where
  known : ∀ a ∈ args, a.startsWith "-" = true → a ∈ optionNames
  single : (positionals args).length ≤ 1

/-- A list and an environment that have options. -/
structure Accepted (args : List Text) (setting : Option Text) : Prop extends Clean args where
  setting : setting ∈ settings
  given : positionals args ≠ [] ∨ Text.ofString "--help" ∈ args ∨ Text.ofString "-h" ∈ args

/-- The options say what is in the list. -/
structure Describes (args : List Text) (setting : Option Text) (o : Options) : Prop where
  inputFile : o.inputFile.toList = positionals args
  dialect : o.dialect = ((grammarNames args).getLast?.map optionDialect).getD (settingDialect setting)
  deps : o.deps = true ↔ Text.ofString "--deps" ∈ args ∨ Text.ofString "-d" ∈ args
  dynamic : o.dynamic = false ↔ Text.ofString "--no-dynamic" ∈ args
  json : o.json = true ↔ Text.ofString "--json" ∈ args
  verbose : o.verbose = true ↔ Text.ofString "--verbose" ∈ args ∨ Text.ofString "-v" ∈ args
  help : o.help = true ↔ Text.ofString "--help" ∈ args ∨ Text.ofString "-h" ∈ args

/-- An argument is refused behind others, with a message: it is no option that is known, or a second
file. -/
inductive Refused (before : List Text) (a : Text) : Text → Prop where
  | unknown (hdash : a.startsWith "-" = true) (h : a ∉ optionNames) :
      Refused before a (Text.ofString "Unknown option: " ++ a)
  | extra (hdash : a.startsWith "-" = false) (h : positionals before ≠ []) :
      Refused before a (Text.ofString "Unexpected extra argument: " ++ a)

theorem dialectOf_ok_iff {setting : Option Text} {d : Dialect} :
    dialectOf setting = .ok d ↔ setting ∈ settings ∧ d = settingDialect setting := by
  by_cases hmem : setting ∈ settings
  · have hall : ∀ s ∈ settings, dialectOf s = .ok (settingDialect s) := by decide
    rw [hall setting hmem, Except.ok.injEq, eq_comm]
    exact (and_iff_right hmem).symm
  · refine iff_of_false (fun h => ?_) fun h => hmem h.1
    cases setting with
    | none => exact hmem List.mem_cons_self
    | some v =>
      obtain ⟨hempty, hts, hjs⟩ : v ≠ [] ∧ v ≠ Text.ofString "ts" ∧ v ≠ Text.ofString "js" := by
        simpa [settings] using hmem
      simp [dialectOf, hempty, hts, hjs] at h

/-! ### Spellings -/

theorem ofText_unknown_iff {t u : Text} :
    Argument.ofText t = .unknown u ↔ u = t ∧ t.startsWith "-" = true ∧ t ∉ optionNames := by
  rcases ofText_cases t with h | ⟨hname, h⟩
  · have hall : ∀ s ∈ spellings, s.1 ∈ optionNames := by decide
    refine iff_of_false (fun hunknown => ?_) fun hunknown => hunknown.2.2 (hall _ h)
    rw [hunknown] at h
    simp [spellings] at h
  · have hname : t ∉ optionNames := hname
    rw [h]
    by_cases hdash : t.startsWith "-" = true <;> simp [hdash, hname, eq_comm]

theorem file_ofText (t : Text) : (Argument.ofText t).file? = if !t.startsWith "-" then some t else none := by
  rcases ofText_cases t with h | ⟨-, h⟩
  · have hall : ∀ s ∈ spellings, s.2.file? = none ∧ s.1.startsWith "-" = true := by decide
    obtain ⟨hfile, hdash⟩ := hall _ h
    rw [hfile, hdash]
    rfl
  · rw [h]
    cases t.startsWith "-" <;> rfl

theorem dialect_ofText (t : Text) : (Argument.ofText t).dialect? =
    if t == "--ts" || t == "--js" then some (optionDialect t) else none := by
  rcases ofText_cases t with h | ⟨hname, h⟩
  · have hall : ∀ s ∈ spellings, s.2.dialect? =
        if s.1 == "--ts" || s.1 == "--js" then some (optionDialect s.1) else none := by decide
    exact hall _ h
  · have hts : t ≠ Text.ofString "--ts" := fun heq => hname (heq ▸ by decide)
    have hjs : t ≠ Text.ofString "--js" := fun heq => hname (heq ▸ by decide)
    have hneither : ¬ (t == Text.ofString "--ts" || t == Text.ofString "--js") = true := by simp [hts, hjs]
    rw [h, if_neg hneither]
    cases t.startsWith "-" <;> rfl

section Arguments
variable {args : List Text} {a : Argument}

/-- An option is there if a spelling of it is. -/
theorem contains_iff (hfile : a.file? = none) (hknown : ∀ u, a ≠ .unknown u) :
    (args.map Argument.ofText).contains a = true ↔ ∃ s ∈ spellings, s.2 = a ∧ s.1 ∈ args := by
  rw [List.contains_iff_mem, List.mem_map]
  constructor
  · rintro ⟨t, ht, rfl⟩
    rcases ofText_cases t with h | ⟨-, h⟩
    · exact ⟨_, h, rfl, ht⟩
    · rw [h] at hfile hknown
      cases hdash : t.startsWith "-" with
      | true =>
        rw [hdash] at hknown
        exact absurd rfl (hknown t)
      | false =>
        rw [hdash] at hfile
        cases hfile
  · rintro ⟨s, hs, rfl, hmem⟩
    exact ⟨s.1, hmem, ofText_of_spelled hs⟩

theorem files_ofText (args : List Text) : (args.map Argument.ofText).filterMap Argument.file? = positionals args := by
  rw [List.filterMap_map, positionals, ← List.filterMap_eq_filter]
  exact congrArg (List.filterMap · args) (funext file_ofText)

theorem dialects_ofText (args : List Text) :
    (args.map Argument.ofText).filterMap Argument.dialect? = (grammarNames args).map optionDialect := by
  rw [List.filterMap_map, grammarNames, ← List.filterMap_eq_filter, List.map_filterMap]
  refine congrArg (List.filterMap · args) (funext fun t => (dialect_ofText t).trans ?_)
  unfold Option.guard
  split <;> rfl

/-- What is taken, told by the list itself. -/
theorem takes_iff {d : Dialect} : Options.Takes {dialect := d} (args.map .ofText) ↔ Clean args := by
  have hfiles : Options.files {dialect := d} (args.map .ofText) = positionals args := files_ofText args
  constructor
  · rintro ⟨hknown, hsingle⟩
    refine ⟨fun t ht hdash => ?_, hfiles ▸ hsingle⟩
    by_contra hname
    exact hknown t (List.mem_map.mpr ⟨t, ht, ofText_unknown_iff.mpr ⟨rfl, hdash, hname⟩⟩)
  · rintro ⟨hknown, hsingle⟩
    refine ⟨fun u hu => ?_, hfiles.symm ▸ hsingle⟩
    obtain ⟨t, ht, hunknown⟩ := List.mem_map.mp hu
    obtain ⟨-, hdash, hname⟩ := ofText_unknown_iff.mp hunknown
    exact hname (hknown t ht hdash)

theorem inputFile_after (args : List Text) (d : Dialect) :
    (Options.after {dialect := d} (args.map .ofText)).inputFile = (positionals args).head? :=
  congrArg List.head? (files_ofText args)

theorem after_describes (h : Clean args) (setting : Option Text) :
    Describes args setting (Options.after {dialect := settingDialect setting} (args.map .ofText)) where
  inputFile := by
    rw [inputFile_after]
    match positionals args, h.single with
    | [], _ => rfl
    | [t], _ => rfl
  dialect := by
    show ((args.map Argument.ofText).filterMap Argument.dialect?).getLastD (settingDialect setting) = _
    rw [dialects_ofText, List.getLastD_eq_getLast?, List.getLast?_map]
  deps := (contains_iff (a := .deps) rfl nofun).trans (by simp [spellings])
  dynamic := by
    show (true && !(args.map Argument.ofText).contains .noDynamic) = false ↔ _
    rw [Bool.true_and, Bool.not_eq_false', contains_iff (a := .noDynamic) rfl nofun]
    simp [spellings]
  json := (contains_iff (a := .json) rfl nofun).trans (by simp [spellings])
  verbose := (contains_iff (a := .verbose) rfl nofun).trans (by simp [spellings])
  help := (contains_iff (a := .help) rfl nofun).trans (by simp [spellings])

/-- A file or a call for help is there if the options have one. -/
theorem Describes.given_iff {setting : Option Text} {o : Options} (h : Describes args setting o) :
    o.help = true ∨ o.inputFile.isSome = true ↔
      positionals args ≠ [] ∨ Text.ofString "--help" ∈ args ∨ Text.ofString "-h" ∈ args := by
  rw [h.help, ← h.inputFile, or_comm]
  cases o.inputFile <;> simp

/-- **An accepted list has the options that its arguments set.** -/
theorem parseArguments_accepted_iff {setting : Option Text} {o : Options} :
    parseArguments args setting = .ok o ↔
      Accepted args setting ∧ o = Options.after {dialect := settingDialect setting} (args.map .ofText) := by
  rw [parseArguments_ok_iff]
  constructor
  · rintro ⟨d, hd, htakes, rfl, hgiven⟩
    obtain ⟨hsetting, rfl⟩ := dialectOf_ok_iff.mp hd
    have hclean := takes_iff.mp htakes
    exact ⟨⟨hclean, hsetting, (after_describes hclean setting).given_iff.mp hgiven⟩, rfl⟩
  · rintro ⟨⟨hclean, hsetting, hgiven⟩, rfl⟩
    exact ⟨_, dialectOf_ok_iff.mpr ⟨hsetting, rfl⟩, takes_iff.mpr hclean, rfl,
      (after_describes hclean setting).given_iff.mpr hgiven⟩

end Arguments

/-! ### Errors -/

/-- **A loop that fails has stopped at an argument**, with all before it taken. -/
theorem foldlM_step_error {o : Options} {args : List Text} {p : Problem} (h : args.foldlM step o = .error p) :
    ∃ before a after, args = before ++ a :: after ∧ o.Takes (before.map .ofText) ∧
      step (o.after (before.map .ofText)) a = .error p := by
  induction args generalizing o with
  | nil => cases h
  | cons t rest ih =>
    rw [List.foldlM_cons] at h
    rcases Operation.bind_error h with h | ⟨o₁, hstep, h⟩
    · exact ⟨[], t, rest, rfl, Options.takes_nil, Options.after_nil.symm ▸ h⟩
    · obtain ⟨htakes, rfl⟩ := step_ok_iff.mp hstep
      obtain ⟨before, a, after, rfl, hbefore, hfails⟩ := ih h
      refine ⟨t :: before, a, after, rfl, Options.takes_cons.mpr ⟨htakes, hbefore⟩, ?_⟩
      rw [List.map_cons, Options.after_cons htakes]
      exact hfails

theorem step_error {before : List Text} {a : Text} {d : Dialect} {p : Problem}
    (h : step (Options.after {dialect := d} (before.map .ofText)) a = .error p) :
    ∃ m, Refused before a m ∧ p = .usage m := by
  unfold step at h
  cases ha : Argument.ofText a with
  | unknown u =>
    rw [ha] at h
    obtain ⟨rfl, hdash, hname⟩ := ofText_unknown_iff.mp ha
    exact ⟨_, .unknown hdash hname, (Except.error.inj h).symm⟩
  | file name =>
    obtain ⟨hdash, rfl⟩ : a.startsWith "-" = false ∧ a = name := by
      have hfile := file_ofText a
      rw [ha] at hfile
      simpa using (Option.ite_none_right_eq_some.mp hfile.symm)
    simp only [ha, inputFile_after] at h
    split at h
    · next hsome =>
      refine ⟨_, .extra hdash fun hnone => ?_, (Except.error.inj h).symm⟩
      rw [hnone] at hsome
      cases hsome
    · cases h
  | dialect | deps | noDynamic | json | verbose | help =>
    rw [ha] at h
    cases h

/-- **A command line fails for its environment, its arguments or the lack of a file.** -/
theorem parseArguments_error {args : List Text} {setting : Option Text} {p : Problem}
    (h : parseArguments args setting = .error p) (hsetting : setting ∈ settings) :
    (Clean args ∧ p = .usage "No input file specified") ∨
      ∃ before a after m, args = before ++ a :: after ∧ Clean before ∧ Refused before a m ∧ p = .usage m := by
  rcases Operation.bind_error h with h | ⟨d, -, h⟩
  · rw [dialectOf_ok_iff.mpr ⟨hsetting, rfl⟩] at h
    cases h
  rcases Operation.bind_error h with h | ⟨o, ho, h⟩
  · obtain ⟨before, a, after, rfl, htakes, hfails⟩ := foldlM_step_error h
    obtain ⟨m, hrefused, rfl⟩ := step_error hfails
    exact .inr ⟨before, a, after, m, rfl, takes_iff.mp htakes, hrefused, rfl⟩
  · refine .inl ⟨takes_iff.mp (foldlM_step_ok_iff.mp ho).1, ?_⟩
    split at h
    · exact (Except.error.inj h).symm
    · cases h

/-- **An argument list counts by what is in it.** It has options exactly if the environment is valid,
all its options are known, and it has one file, or none and a call for help. The options
are what their spellings say, the file is the one there is, and the grammar is the last one
asked for, or that of the environment. So arguments that stand in another order have the
same options or none either, as long as the grammars keep their order. And where an argument
is refused, the error is about the first one. -/
theorem parseArguments_unordered (args : List Text) (setting : Option Text) :
    ((∃ o, parseArguments args setting = .ok o) ↔ Accepted args setting) ∧
    (∀ o, parseArguments args setting = .ok o → Describes args setting o) ∧
    (∀ args', args.Perm args' → grammarNames args = grammarNames args' →
      ∀ o, parseArguments args setting = .ok o ↔ parseArguments args' setting = .ok o) ∧
    ∀ p, parseArguments args setting = .error p → setting ∈ settings →
      (Clean args ∧ p = .usage "No input file specified") ∨
      ∃ before a after m, args = before ++ a :: after ∧ Clean before ∧ Refused before a m ∧ p = .usage m := by
  refine ⟨⟨?_, fun h => ⟨_, parseArguments_accepted_iff.mpr ⟨h, rfl⟩⟩⟩, fun o h => ?_,
    fun args' hperm hgrammars o => ?_, fun p => parseArguments_error⟩
  · rintro ⟨o, h⟩
    exact (parseArguments_accepted_iff.mp h).1
  · obtain ⟨haccepted, rfl⟩ := parseArguments_accepted_iff.mp h
    exact after_describes haccepted.toClean setting
  · have hdialects : (args.map .ofText).filterMap Argument.dialect? =
        (args'.map .ofText).filterMap Argument.dialect? := by
      rw [dialects_ofText, dialects_ofText, hgrammars]
    exact ⟨parseArguments_reordered hperm.symm hdialects.symm, parseArguments_reordered hperm hdialects⟩

/-- Two grammars, a flag that is there twice and a file. -/
def repeatedArguments : List Text := ["-d", "--js", "m.ts", "--deps", "--ts"]

/-- An unknown option in front of a second file. -/
def refusedArguments : List Text := ["m.ts", "--js", "--frob", "n.ts"]

theorem repeatedArguments_unordered :
    let o : Options := {inputFile := some (Text.ofString "m.ts"), deps := true}
    parseArguments repeatedArguments (some (Text.ofString "js")) = .ok o ∧
      Describes repeatedArguments (some (Text.ofString "js")) o ∧
      parseArguments ["--js", "--deps", "--ts", "m.ts", "-d"] (some (Text.ofString "js")) = .ok o ∧
      parseArguments refusedArguments none = .error (.usage "Unknown option: --frob") ∧
      ∃ before a after m, refusedArguments = before ++ a :: after ∧ Clean before ∧ Refused before a m ∧
        Problem.usage "Unknown option: --frob" = .usage m := by
  intro o
  obtain ⟨-, hdescribes, hreordered, -⟩ := parseArguments_unordered repeatedArguments (some (Text.ofString "js"))
  have hok : parseArguments repeatedArguments (some (Text.ofString "js")) = .ok o := by decide
  have hrefused : parseArguments refusedArguments none = .error (.usage "Unknown option: --frob") := by decide
  refine ⟨hok, hdescribes o hok, (hreordered _ (by decide) (by decide) o).mp hok, hrefused, ?_⟩
  rcases (parseArguments_unordered refusedArguments none).2.2.2 _ hrefused (by decide) with ⟨-, hmissing⟩ | hfirst
  · exact absurd hmissing (by decide)
  · exact hfirst

end EcmaModule.CommandLine
