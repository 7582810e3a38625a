import EcmaModule.Grammar.Token.Quoted

/-! Words: identifiers and keywords, with their escapes. -/
namespace EcmaModule.Grammar.Parse

/-- An escape inside a word, as a code point that may stand there. -/
def wordEscape (first : Bool) : Parse Text := do
  let start ← pos
  advance
  unless (← peek) == 0x75 do refuseEscape (← pos) .unicodeEscapeExpected
  advance
  let code ← codePointEscape
  unless if first then Identifier.isStart code else Identifier.isPart code do
    refuseEscape start .invalidUnicodeEscape
  return Text.unitsOf code

/-- The parts of a word, latest first. -/
def wordParts : Nat → List Text → Parse (List Text)
  | 0, _ => throw .exhausted
  | fuel + 1, parts => do
    let s ← source
    let from_ ← pos
    let stop := s.wordEnd s.size from_
    moveTo stop
    let parts := if stop == from_ then parts else s.slice from_ stop :: parts
    if (← peek) == 0x5C then
      modifyReader fun r => { r with escaped := true }
      let part ← wordEscape parts.isEmpty
      wordParts fuel (part :: parts)
    else return parts

/-- The units of the word where the scanner stands; empty if none starts there. -/
def wordUnits : Parse Text := do
  modifyReader fun r => { r with escaped := false }
  return (← wordParts (← steps) []).reverse.flatten

def word : Parse String := return (← wordUnits).toString?.getD ""

/-- The kind of a word. Some words are tokens of their own only where types are read. -/
def wordKind (w : String) : Parse TokenKind := do
  match Keyword.ofText? w with
  | some k => return .keyword k
  | none =>
    if ← isTyped then
      match TypeWord.ofText? w with
      | some t => return .typeWord t
      | none => return .name
    else return .name

end EcmaModule.Grammar.Parse
