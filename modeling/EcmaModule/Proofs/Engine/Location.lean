import EcmaModule.Engine
import EcmaModule.Proofs.Diagnostic.Pipeline
import EcmaModule.Proofs.Number.Text
import Mathlib.Data.List.TakeWhile

/-! Locations behind messages.

A grammar that throws puts the line and the column in parentheses behind its message, and
the engine cuts them off again. Cutting takes off just what was put there, whatever the
message ends with itself (`cutLocation_located`), and a message that does not end with a
location stays as it is (`reportThrown_message`). -/
namespace EcmaModule.Engine

open Json

/-- A message with a place behind it. -/
def located (message : Text) (place : Position) : Text :=
  message ++ (Text.ofString " (" ++ Text.ofInt place.line ++ Text.ofString ":" ++
    Text.ofInt place.column ++ Text.ofString ")")

/-- Read from the end, a location is digits, a colon and digits between brackets. -/
theorem dropLocation_digits {line column : Text} (hline : AllDigits line) (hline_ne : line ≠ [])
    (hcolumn : AllDigits column) (hcolumn_ne : column ≠ []) (rest : Text) :
    dropLocation? (0x29 :: (column ++ 0x3A :: (line ++ 0x28 :: 0x20 :: rest))) = some rest := by
  have hfirst : (column ++ 0x3A :: (line ++ 0x28 :: 0x20 :: rest)).span Value.isDigit =
      (column, 0x3A :: (line ++ 0x28 :: 0x20 :: rest)) :=
    spanDigits_append hcolumn (by rintro u ⟨⟩; rfl)
  have hsecond : (line ++ 0x28 :: 0x20 :: rest).span Value.isDigit = (line, 0x28 :: 0x20 :: rest) :=
    spanDigits_append hline (by rintro u ⟨⟩; rfl)
  simp only [dropLocation?, hfirst, hsecond]
  simp [hline_ne, hcolumn_ne]

theorem allDigits_reverse {t : Text} (h : AllDigits t) : AllDigits t.reverse :=
  fun u hu => h u (List.mem_reverse.mp hu)

/-! ### Messages with and without a location -/

/-- A text with a location behind it: a space, and digits, a colon and digits in brackets. -/
inductive EndsLocated (rest : Text) : Text → Prop where
  | intro {line column : Text} (hline : AllDigits line) (hline_ne : line ≠ [])
      (hcolumn : AllDigits column) (hcolumn_ne : column ≠ []) :
      EndsLocated rest (rest ++ (Text.ofString " (" ++ line ++ Text.ofString ":" ++ column ++
        Text.ofString ")"))

/-- The digits in front are all digits, and what they are taken off starts with none. -/
theorem span_digits (t : Text) : AllDigits (t.span Value.isDigit).1 ∧
    t = (t.span Value.isDigit).1 ++ (t.span Value.isDigit).2 := by
  rw [List.span_eq_takeWhile_dropWhile]
  exact ⟨fun u hu => List.mem_takeWhile_imp hu, List.takeWhile_append_dropWhile.symm⟩

/-- **What is dropped from the end is a location**, and nothing else is. -/
theorem dropLocation_eq_some_iff {t rest : Text} :
    dropLocation? t = some rest ↔ ∃ line column,
      AllDigits line ∧ line ≠ [] ∧ AllDigits column ∧ column ≠ [] ∧
        t = 0x29 :: (column ++ 0x3A :: (line ++ 0x28 :: 0x20 :: rest)) := by
  constructor
  · intro h
    unfold dropLocation? at h
    split at h
    · next behind =>
      obtain ⟨hcolumn, hbehind⟩ := span_digits behind
      simp only at h
      split at h
      · next more hmore =>
        obtain ⟨hline, hsplit⟩ := span_digits more
        split at h
        · next hrest =>
          rw [hrest] at hsplit
          rw [hmore, hsplit] at hbehind
          simp only [Option.ite_none_left_eq_some, Bool.or_eq_true, List.isEmpty_iff, not_or] at h
          obtain ⟨⟨hcolumn_ne, hline_ne⟩, hsame⟩ := h
          obtain rfl := Option.some.inj hsame
          exact ⟨_, _, hline, hline_ne, hcolumn, hcolumn_ne, congrArg _ hbehind⟩
        · cases h
      · cases h
    · cases h
  · rintro ⟨line, column, hline, hline_ne, hcolumn, hcolumn_ne, rfl⟩
    exact dropLocation_digits hline hline_ne hcolumn hcolumn_ne rest

/-- A message ends with a location if one can be dropped from its end. -/
theorem endsLocated_iff {rest message : Text} :
    EndsLocated rest message ↔ dropLocation? message.reverse = some rest.reverse := by
  rw [dropLocation_eq_some_iff]
  constructor
  · rintro ⟨hline, hline_ne, hcolumn, hcolumn_ne⟩
    refine ⟨_, _, allDigits_reverse hline, mt List.reverse_eq_nil_iff.mp hline_ne,
      allDigits_reverse hcolumn, mt List.reverse_eq_nil_iff.mp hcolumn_ne, ?_⟩
    simp only [List.reverse_append, List.append_assoc]
    rfl
  · rintro ⟨line, column, hline, hline_ne, hcolumn, hcolumn_ne, hmessage⟩
    have hforth : message = rest ++ (Text.ofString " (" ++ line.reverse ++ Text.ofString ":" ++
        column.reverse ++ Text.ofString ")") := by
      rw [← List.reverse_inj, hmessage]
      simp only [List.reverse_append, List.append_assoc, List.reverse_reverse]
      rfl
    rw [hforth]
    exact .intro (allDigits_reverse hline) (mt List.reverse_eq_nil_iff.mp hline_ne)
      (allDigits_reverse hcolumn) (mt List.reverse_eq_nil_iff.mp hcolumn_ne)

theorem cutLocation_of_endsLocated {rest message : Text} (h : EndsLocated rest message) :
    cutLocation message = rest := by
  rw [cutLocation, endsLocated_iff.mp h]
  exact List.reverse_reverse rest

theorem located_endsLocated (message : Text) (line column : Nat) :
    EndsLocated message (located message ⟨line, column⟩) := by
  have hdecimal (n : Nat) : Text.ofInt n = Text.decimal n := Text.ofString_toString n
  have hdigits (n : Nat) : AllDigits (Text.ofInt n) := hdecimal n ▸ Text.decimal_digits n
  have hne (n : Nat) : Text.ofInt n ≠ [] := hdecimal n ▸ Text.decimal_ne_nil n
  exact .intro (hdigits line) (hne line) (hdigits column) (hne column)

/-- **A location is cut off as it was put on**, and nothing of the message with it. -/
theorem cutLocation_located (message : Text) (line column : Nat) :
    cutLocation (located message ⟨line, column⟩) = message :=
  cutLocation_of_endsLocated (located_endsLocated message line column)

theorem cutLocation_of_unlocated {message : Text} (h : ¬ ∃ rest, EndsLocated rest message) :
    cutLocation message = message := by
  unfold cutLocation
  split
  · next reversed hdrop =>
    refine absurd ⟨reversed.reverse, endsLocated_iff.mpr ?_⟩ h
    rw [hdrop, List.reverse_reverse]
  · rfl

/-! ### The record of a syntax error -/

/-- A pipeline has gained one record, at the end of the buffer or, where records are held back, at the
end of those; nothing else has changed. -/
structure Gains (p p' : Pipeline) (r : Record) : Prop where
  flags : p'.flags = p.flags
  forwarded : p.flags.dontBufferDiagnostics = true →
    p'.buffer = p.buffer ++ [r] ∧ p'.pending = p.pending
  held : p.flags.dontBufferDiagnostics = false →
    p'.buffer = p.buffer ∧ p'.pending = p.pending ++ [r]

theorem emit_gains (p : Pipeline) {r : Record} (h : r.severity = .error) : Gains p (p.emit r) r := by
  have hemit : p.emit r =
      if p.flags.dontBufferDiagnostics then p.push r else {p with pending := p.pending ++ [r]} := by
    rw [Pipeline.emit, Pipeline.accept_error p.flags h]
  rw [hemit]
  split
  · next hforward => exact ⟨rfl, fun _ => ⟨rfl, rfl⟩, fun hhold => absurd hforward (by simp [hhold])⟩
  · next hhold => exact ⟨rfl, fun hforward => absurd hforward hhold, fun _ => ⟨rfl, rfl⟩⟩

/-- A report is one record of an error, with the message as it is. -/
theorem report_emits (c : Context) (file : Nat) (code : DiagnosticCode) (pos : Int) (message : Text)
    (stop : Int) : ∃ r, (report c file code pos message stop).pipeline = c.pipeline.emit r ∧
      r.code = code.name ∧ r.severity = .error ∧ r.message = message := by
  let c₁ := (resolve c file pos).2
  let c₂ := (resolve c₁ file stop).2
  let f := c₂.sources.files.getD file default
  exact ⟨⟨code.name, .error, message, f.name, ⟨(resolve c file pos).1, (resolve c₁ file stop).1⟩,
    f.position pos, []⟩, rfl, rfl, rfl, rfl⟩

/-- **A syntax error is recorded with its message, less the location behind it.** The policy lets the
record pass in every context, and the pipeline gains this one record. Where the message is another
one with a line and a column behind, the record has that other one as it was, also if it ends with
a location itself. Any digits count as a location, and where the message ends with none the record
has it unchanged. -/
theorem reportThrown_message (c : Context) (file : Nat) (message : Text) (pos raisedAt : Option Int) :
    ∃ r, (reportThrown c file (.syntaxError message pos raisedAt)).pipeline = c.pipeline.emit r ∧
      c.pipeline.flags.accept r = some r ∧
      Gains c.pipeline (reportThrown c file (.syntaxError message pos raisedAt)).pipeline r ∧
      r.code = DiagnosticCode.fatal.name ∧
      (∀ m (line column : Nat), message = located m ⟨line, column⟩ → r.message = m) ∧
      (∀ rest, EndsLocated rest message → r.message = rest) ∧
      ((¬ ∃ rest, EndsLocated rest message) → r.message = message) := by
  obtain ⟨r, hpipeline, hcode, herror, hmessage⟩ := report_emits c file .fatal (pos.getD 0)
    (cutLocation message) (max (pos.getD 0) (raisedAt.getD (pos.getD 0)))
  have hgains : Gains c.pipeline (reportThrown c file (.syntaxError message pos raisedAt)).pipeline r :=
    hpipeline ▸ emit_gains c.pipeline herror
  refine ⟨r, hpipeline, Pipeline.accept_error _ herror, hgains, hcode, ?_, ?_, ?_⟩
  · rintro m line column rfl
    rw [hmessage, cutLocation_located]
  · intro rest hends
    rw [hmessage, cutLocation_of_endsLocated hends]
  · intro hnone
    rw [hmessage, cutLocation_of_unlocated hnone]

/-- A break behind the location, digits that are missing, no space, no bracket, one that never
closes, a space behind it, and no space at the start. -/
def nearMisses : List Text :=
  ["odd (1:2)\n", "odd (:2)", "odd (1:)", "odd(1:2)", "odd 1:2)", "odd (1:2", "odd (1:2) ", "(1:2)"]

theorem nearMisses_kept :
    let odd : Text := "odd (1:2)"
    (∃ r, (reportThrown {} 0 (.syntaxError (located odd ⟨30, 4⟩) (some 3) none)).pipeline =
        ({} : Pipeline).emit r ∧ r.message = odd) ∧
      ∀ m ∈ nearMisses, (¬ ∃ rest, EndsLocated rest m) ∧
        ∃ r, (reportThrown {} 0 (.syntaxError m none none)).pipeline = ({} : Pipeline).emit r ∧
          r.message = m := by
  intro odd
  constructor
  · obtain ⟨r, hpipeline, -, -, -, hcut, -⟩ :=
      reportThrown_message {} 0 (located odd ⟨30, 4⟩) (some 3) none
    exact ⟨r, hpipeline, hcut odd 30 4 rfl⟩
  · intro m hm
    have hall : ∀ m ∈ nearMisses, dropLocation? m.reverse = none := by decide
    have hnone : ¬ ∃ rest, EndsLocated rest m := by
      rintro ⟨rest, hends⟩
      rw [endsLocated_iff, hall m hm] at hends
      cases hends
    obtain ⟨r, hpipeline, -, -, -, -, -, hkept⟩ := reportThrown_message {} 0 m none none
    exact ⟨hnone, r, hpipeline, hkept hnone⟩

end EcmaModule.Engine
