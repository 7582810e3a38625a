import EcmaModule.Grammar.Token.Digits

/-! Escape sequences, string literals and the text of templates.

An escape that a string refuses is an error. In a template it only makes the text
invalid, since a tag may still accept it. -/
namespace EcmaModule.Grammar.Parse

/-! ### Escapes -/

/-- A refused escape: an error in a string, a bad text in a template. -/
def refuseEscape {α : Type} (pos : Nat) (c : Complaint) : Parse α := do
  if (← get).inTemplate then throw .templateEscape else raise pos c

/-- Exactly `count` hexadecimal digits, at least one. -/
def hexEscape (count : Nat) : Parse Nat := do
  let start ← pos
  let (stop, complete, total) := fixedDigits? (← source) 16 count start 0
  moveTo stop
  if complete && count != 0 then return total else refuseEscape start .badCharacterEscape

/-- The code point after the letter `u`: four digits, or any number of them in braces. -/
def codePointEscape : Parse Nat := do
  if (← peek) == 0x7B then
    advance
    let start ← pos
    let count := ((← source).find? 0x7D start).elim 0 fun stop => stop - start
    let code ← hexEscape count
    advance
    if 0x10FFFF < code then refuseEscape start .codePointOutOfBounds
    return code
  else hexEscape 4

/-- At most three octal digits at the front, as digits. -/
def octalDigits (s : Source) : Nat → Nat → List Nat
  | 0, _ => []
  | fuel + 1, i =>
    let c := s.unit i
    if 0x30 ≤ c && c ≤ 0x37 then (c - 0x30) :: octalDigits s fuel (i + 1) else []

def octalValue (ds : List Nat) : Nat := ds.foldl (fun n d => n * 8 + d) 0

/-- An octal escape, which names a unit below 256. Only a plain zero is allowed. -/
def octalEscape : Parse Text := do
  let s ← source
  let digits := octalDigits s 3 ((← pos) - 1)
  let digits := if octalValue digits ≤ 255 then digits else digits.take 2
  advance (digits.length - 1)
  let next ← peek
  if digits != [0] || next == 0x38 || next == 0x39 then
    refuseEscape ((← pos) - 1 - digits.length) .octalInStrictMode
  return [(octalValue digits).toUInt16]

/-- What an escape stands for; the scanner stands at the backslash. -/
def escape : Parse Text := do
  advance
  let c ← peek
  advance
  match c with
  | 0x6E => return [10]
  | 0x72 => return [13]
  | 0x78 => return [(← hexEscape 2).toUInt16]
  | 0x75 => return Text.unitsOf (← codePointEscape)
  | 0x74 => return [9]
  | 0x62 => return [8]
  | 0x76 => return [11]
  | 0x66 => return [12]
  | 0x38 => refuseEscape ((← pos) - 1) .invalidEscapeSequence
  | 0x39 => refuseEscape ((← pos) - 1) .invalidEscapeSequence
  | _ =>
    if 0x30 ≤ c && c ≤ 0x37 then octalEscape
    else if isNewline c then
      if c == 13 && (← peek) == 10 then advance
      startLine
      return []
    else if c == noUnit then return [0]
    else return [c.toUInt16]

/-! ### Strings -/

/-- The units up to the next one that `stops` the plain part. -/
def plainEnd (s : Source) (stops : Nat → Bool) (i : Nat) : Nat :=
  if i < s.size then if stops (s.unit i) then i else plainEnd s stops (i + 1) else i
termination_by s.size - i

/-- A string literal after its opening quote; parts are collected latest first. -/
def stringParts (quote : Nat) : Nat → List Text → Parse Text
  | 0, _ => throw .exhausted
  | fuel + 1, parts => do
    let s ← source
    let from_ ← pos
    let stop := plainEnd s (fun c => c == quote || c == 0x5C || isNewline c) from_
    moveTo stop
    let parts := s.slice from_ stop :: parts
    let c ← peek
    if c == quote then
      advance
      return parts.reverse.flatten
    else if c == 0x5C then
      let part ← escape
      stringParts quote fuel (part :: parts)
    else if c == 0x2028 || c == 0x2029 then
      advance
      startLine
      stringParts quote fuel ([c.toUInt16] :: parts)
    else raise (← start) .unterminatedString

def stringLiteral (quote : Nat) : Parse TokenValue := do
  advance
  return .string (← stringParts quote (← steps) [])

/-! ### Templates -/

/-- What a stretch of a template is. -/
inductive TemplateToken where
  | text (cooked : Text)
  | invalid (raw : Text)
  | close
  | substitution

/-- The text of a template up to a substitution or its end. -/
def templateParts : Nat → List Text → Parse TemplateToken
  | 0, _ => throw .exhausted
  | fuel + 1, parts => do
    let s ← source
    let r ← reader
    let stop := plainEnd s (fun c => c == 0x60 || c == 0x24 || c == 0x5C || isNewline c) r.pos
    moveTo stop
    let parts := s.slice r.pos stop :: parts
    let c ← peek
    if c == noUnit then raise r.start .unterminatedTemplate
    else if c == 0x60 || (c == 0x24 && (← peek 1) == 0x7B) then
      if stop == r.start && (r.kind == .template || r.kind == .invalidTemplate) then
        if c == 0x24 then
          advance 2
          return .substitution
        else
          advance
          return .close
      else return .text parts.reverse.flatten
    else if c == 0x5C then
      let part ← escape
      templateParts fuel (part :: parts)
    else if isNewline c then
      advance
      if c == 13 && (← peek) == 10 then advance
      startLine
      templateParts fuel ([if c == 13 then 10 else c.toUInt16] :: parts)
    else
      advance
      templateParts fuel ([c.toUInt16] :: parts)

/-- The rest of a template's text after an escape that was refused in it. -/
def invalidTemplate : Nat → Parse TemplateToken
  | 0 => throw .exhausted
  | fuel + 1 => do
    let r ← reader
    let c ← peek
    if c == noUnit then raise r.start .unterminatedTemplate
    else if c == 0x60 || (c == 0x24 && (← peek 1) == 0x7B) then
      return .invalid ((← source).slice r.start r.pos)
    else
      if c == 0x5C then advance
      if c == 13 && (← peek 1) == 10 then advance
      advance
      if isNewline c then startLine
      invalidTemplate fuel

/-- The next stretch of a template. -/
def templateToken : Parse TemplateToken := do
  modify fun s => { s with inTemplate := true }
  let fuel ← steps
  let token ← tryCatch (templateParts fuel []) fun e =>
    if e == .templateEscape then invalidTemplate fuel else throw e
  modify fun s => { s with inTemplate := false }
  return token

end EcmaModule.Grammar.Parse
