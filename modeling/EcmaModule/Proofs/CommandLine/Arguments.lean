import EcmaModule.CommandLine.Options
import EcmaModule.Proofs.Operation.Answer

/-! What an argument list says.

The options of a list do not depend on the way it is read: a flag is set if it is there, the
file is the only one there, and the grammar is the last one there (`foldlM_step_ok_iff`). So
arguments may stand in any order, as long as the grammars among them keep theirs
(`Options.reordered`). -/
namespace EcmaModule.CommandLine

/-! ### One argument -/

/-- The file that an argument names. -/
def Argument.file? : Argument → Option Text
  | .file name => some name
  | _ => none

/-- The grammar that an argument asks for. -/
def Argument.dialect? : Argument → Option Dialect
  | .dialect d => some d
  | _ => none

theorem ofText_of_spelled {t : Text} {a : Argument} (h : (t, a) ∈ spellings) : Argument.ofText t = a := by
  have hall : ∀ s ∈ spellings, Argument.ofText s.1 = s.2 := by decide
  exact hall (t, a) h

/-- An argument is an option with a spelling, or it starts with a dash or not. -/
theorem ofText_cases (t : Text) : (t, Argument.ofText t) ∈ spellings ∨
    t ∉ spellings.map Prod.fst ∧ Argument.ofText t = if t.startsWith "-" then .unknown t else .file t := by
  cases hfind : spellings.find? fun s => s.1 == t with
  | none =>
    refine .inr ⟨fun hname => ?_, by rw [Argument.ofText, hfind]⟩
    obtain ⟨s, hs, rfl⟩ := List.mem_map.mp hname
    exact List.find?_eq_none.mp hfind s hs (beq_self_eq_true s.1)
  | some s =>
    have hkey : (s.1 == t) = true := List.find?_some (p := fun s : Text × Argument => s.1 == t) hfind
    obtain rfl := eq_of_beq hkey
    have hmem : (s.1, s.2) ∈ spellings := List.mem_of_find?_eq_some hfind
    exact .inl (by rwa [ofText_of_spelled hmem])

/-- What does not start like an option is a file. -/
theorem Argument.ofText_file {name : Text} (h : name.startsWith "-" = false) :
    Argument.ofText name = .file name := by
  rcases ofText_cases name with hspelled | ⟨-, htext⟩
  · have hdash : ∀ s ∈ spellings, s.1.startsWith "-" = true := by decide
    rw [hdash _ hspelled] at h
    cases h
  · rw [htext, h]
    rfl

/-! ### All arguments -/

/-- A list of at most one item has no other order. -/
theorem perm_short {α : Type} {l l' : List α} (h : l.Perm l') (hshort : l'.length ≤ 1) : l = l' := by
  match l', hshort with
  | [], _ => exact h.eq_nil
  | [x], _ => exact h.eq_singleton

namespace Options
variable {o : Options} {a : Argument} {args args' : List Argument}

/-- The files there are, the one already taken first. -/
def files (o : Options) (args : List Argument) : List Text :=
  o.inputFile.toList ++ args.filterMap Argument.file?

/-- The arguments are all known, and there is no second file. -/
structure Takes (o : Options) (args : List Argument) : Prop where
  known : ∀ t, .unknown t ∉ args
  single : (o.files args).length ≤ 1

/-- The options once the arguments are taken. -/
def after (o : Options) (args : List Argument) : Options where
  inputFile := (o.files args).head?
  dialect := (args.filterMap Argument.dialect?).getLastD o.dialect
  deps := o.deps || args.contains .deps
  dynamic := o.dynamic && !args.contains .noDynamic
  json := o.json || args.contains .json
  verbose := o.verbose || args.contains .verbose
  help := o.help || args.contains .help

theorem takes_nil : o.Takes [] :=
  ⟨nofun, by cases hinput : o.inputFile <;> simp [files, hinput]⟩

theorem after_nil : o.after [] = o := by
  obtain ⟨_ | file, dialect, deps, dynamic, json, verbose, help⟩ := o
  all_goals simp [after, files]

theorem takes_singleton :
    o.Takes [a] ↔ (∀ t, a ≠ .unknown t) ∧ (a.file? = none ∨ o.inputFile = none) := by
  have hsingle : (o.files [a]).length ≤ 1 ↔ a.file? = none ∨ o.inputFile = none := by
    cases hfile : a.file? <;> cases hinput : o.inputFile <;> simp [files, hfile, hinput]
  constructor
  · intro h
    exact ⟨fun t ht => h.known t (ht ▸ List.mem_singleton_self _), hsingle.mp h.single⟩
  · rintro ⟨hknown, hfile⟩
    exact ⟨fun t ht => hknown t (List.mem_singleton.mp ht).symm, hsingle.mpr hfile⟩

theorem files_cons (o : Options) (a : Argument) (args : List Argument) :
    o.files (a :: args) = o.files [a] ++ args.filterMap Argument.file? := by
  rw [files, files, List.append_assoc, ← List.filterMap_append, List.singleton_append]

theorem files_after (h : o.Takes [a]) (args : List Argument) :
    (o.after [a]).files args = o.files (a :: args) := by
  have hone : (o.files [a]).head?.toList = o.files [a] := by
    match hfiles : o.files [a], h.single with
    | [], _ => rfl
    | [name], _ => rfl
  rw [files_cons, ← hone]
  rfl

/-- Arguments are taken one after the other. -/
theorem takes_cons : o.Takes (a :: args) ↔ o.Takes [a] ∧ (o.after [a]).Takes args := by
  constructor
  · intro h
    have hfirst : o.Takes [a] := by
      refine ⟨fun t ht => h.known t ?_, ?_⟩
      · rw [List.mem_singleton.mp ht]
        exact List.mem_cons_self
      · have hsingle := h.single
        rw [files_cons, List.length_append] at hsingle
        omega
    refine ⟨hfirst, fun t ht => h.known t (List.mem_cons_of_mem a ht), ?_⟩
    rw [files_after hfirst]
    exact h.single
  · rintro ⟨hfirst, hrest⟩
    refine ⟨fun t ht => ?_, files_after hfirst args ▸ hrest.single⟩
    rcases List.mem_cons.mp ht with rfl | ht
    · exact hfirst.known t List.mem_cons_self
    · exact hrest.known t ht

theorem after_cons (h : o.Takes [a]) : o.after (a :: args) = (o.after [a]).after args := by
  have hdialect : ((a :: args).filterMap Argument.dialect?).getLastD o.dialect =
      (args.filterMap Argument.dialect?).getLastD (([a].filterMap Argument.dialect?).getLastD o.dialect) := by
    cases hd : a.dialect? with
    | none => rw [List.filterMap_cons_none hd, List.filterMap_cons_none hd]; rfl
    | some d => rw [List.filterMap_cons_some hd, List.filterMap_cons_some hd, List.getLastD_cons]; rfl
  have hflag (flag : Argument) (b : Bool) :
      (b || (a :: args).contains flag) = (b || [a].contains flag || args.contains flag) := by
    rw [← List.singleton_append, List.contains_append, Bool.or_assoc]
  have hdynamic : (o.dynamic && !(a :: args).contains .noDynamic) =
      (o.dynamic && !([a].contains .noDynamic) && !args.contains .noDynamic) := by
    rw [← List.singleton_append, List.contains_append, Bool.not_or, Bool.and_assoc]
  show (⟨(o.files (a :: args)).head?, _, _, _, _, _, _⟩ : Options) = _
  rw [← files_after h, hdialect, hflag, hflag, hflag, hflag, hdynamic]
  rfl

/-- **Arguments may stand in any order** that leaves the grammars among them in theirs. -/
theorem reordered (h : args.Perm args')
    (hdialects : args.filterMap Argument.dialect? = args'.filterMap Argument.dialect?)
    (htakes : o.Takes args') : o.Takes args ∧ o.after args = o.after args' := by
  have hfiles : o.files args = o.files args' :=
    perm_short ((h.filterMap _).append_left _) htakes.single
  have hflag (flag : Argument) : args.contains flag = args'.contains flag := h.contains_eq
  refine ⟨⟨fun t ht => htakes.known t (h.mem_iff.mp ht), hfiles ▸ htakes.single⟩, ?_⟩
  unfold after
  rw [hfiles, hdialects, hflag, hflag, hflag, hflag, hflag]

end Options

/-! ### The loop -/

section Step
variable {o o' : Options}

/-- One argument is taken unless it is unknown or a second file. -/
theorem step_ok_iff {t : Text} :
    step o t = .ok o' ↔ o.Takes [.ofText t] ∧ o' = o.after [.ofText t] := by
  unfold step
  obtain ⟨_ | file, dialect, deps, dynamic, json, verbose, help⟩ := o
  all_goals
    cases Argument.ofText t <;>
      simp [Options.takes_singleton, Options.after, Options.files, Argument.file?, Argument.dialect?, eq_comm]

/-- **The loop takes all arguments or fails.** -/
theorem foldlM_step_ok_iff {args : List Text} :
    args.foldlM step o = .ok o' ↔ o.Takes (args.map .ofText) ∧ o' = o.after (args.map .ofText) := by
  induction args generalizing o with
  | nil =>
    rw [List.foldlM_nil, List.map_nil, Options.after_nil]
    exact ⟨fun h => ⟨Options.takes_nil, (Except.ok.inj h).symm⟩, fun h => congrArg Except.ok h.2.symm⟩
  | cons t rest ih =>
    rw [List.foldlM_cons, Operation.bind_ok_iff, List.map_cons, Options.takes_cons]
    constructor
    · rintro ⟨o₁, hstep, hrest⟩
      obtain ⟨htakes, rfl⟩ := step_ok_iff.mp hstep
      obtain ⟨htaken, rfl⟩ := ih.mp hrest
      exact ⟨⟨htakes, htaken⟩, (Options.after_cons htakes).symm⟩
    · rintro ⟨⟨htakes, htaken⟩, rfl⟩
      exact ⟨_, step_ok_iff.mpr ⟨htakes, rfl⟩, ih.mpr ⟨htaken, Options.after_cons htakes⟩⟩

/-- **An argument list has options** if its environment is valid, its arguments are taken, and one of
them is a file or a call for help. -/
theorem parseArguments_ok_iff {args : List Text} {setting : Option Text} :
    parseArguments args setting = .ok o ↔
      ∃ d, dialectOf setting = .ok d ∧ Options.Takes {dialect := d} (args.map .ofText) ∧
        o = Options.after {dialect := d} (args.map .ofText) ∧ (o.help = true ∨ o.inputFile.isSome = true) := by
  have hchecked (o₁ : Options) :
      (if !o₁.help && o₁.inputFile.isNone then .error (.usage "No input file specified") else .ok o₁) =
          (.ok o : Except Problem Options) ↔ o = o₁ ∧ (o.help = true ∨ o.inputFile.isSome = true) := by
    have hgiven : (!o₁.help && o₁.inputFile.isNone) = true ↔
        ¬ (o₁.help = true ∨ o₁.inputFile.isSome = true) := by
      cases o₁.help <;> cases o₁.inputFile <;> simp
    by_cases hmissing : (!o₁.help && o₁.inputFile.isNone) = true
    · rw [if_pos hmissing]
      exact iff_of_false nofun fun ⟨hsame, h⟩ => hgiven.mp hmissing (hsame ▸ h)
    · rw [if_neg hmissing, Except.ok.injEq, eq_comm]
      exact (and_iff_left_of_imp fun hsame => hsame ▸ of_not_not (mt hgiven.mpr hmissing)).symm
  rw [parseArguments, Operation.bind_ok_iff]
  refine exists_congr fun d => and_congr_right fun _ => ?_
  rw [Operation.bind_ok_iff]
  refine (exists_congr fun o₁ => and_congr foldlM_step_ok_iff (hchecked o₁)).trans ?_
  constructor
  · rintro ⟨_, ⟨htakes, rfl⟩, rfl, hgiven⟩
    exact ⟨htakes, rfl, hgiven⟩
  · rintro ⟨htakes, rfl, hgiven⟩
    exact ⟨_, ⟨htakes, rfl⟩, rfl, hgiven⟩

/-- Another order of the arguments has the same options. -/
theorem parseArguments_reordered {args args' : List Text} {setting : Option Text} (h : args.Perm args')
    (hdialects : (args.map .ofText).filterMap Argument.dialect? =
      (args'.map .ofText).filterMap Argument.dialect?)
    (hok : parseArguments args' setting = .ok o) : parseArguments args setting = .ok o := by
  obtain ⟨d, hd, htakes, rfl, hgiven⟩ := parseArguments_ok_iff.mp hok
  obtain ⟨htakes', hsame⟩ := Options.reordered (h.map Argument.ofText) hdialects htakes
  exact parseArguments_ok_iff.mpr ⟨d, hd, htakes', hsame.symm, hgiven⟩

/-- A list that says what is taken has the options that it sets, in any order if it asks for one
grammar at most. -/
theorem parseArguments_said {args args' : List Text} {said : List Argument} {setting : Option Text}
    {d : Dialect} (hsetting : dialectOf setting = .ok d) (h : args.Perm args') (hsaid : args'.map .ofText = said)
    (hone : (said.filterMap Argument.dialect?).length ≤ 1) (htakes : Options.Takes {dialect := d} said)
    (hfile : (Options.after {dialect := d} said).inputFile.isSome = true) :
    parseArguments args setting = .ok (.after {dialect := d} said) := by
  subst hsaid
  have hdialects := perm_short ((h.map Argument.ofText).filterMap Argument.dialect?) hone
  exact parseArguments_reordered h hdialects (parseArguments_ok_iff.mpr ⟨d, hsetting, htakes, rfl, .inr hfile⟩)

end Step

end EcmaModule.CommandLine
