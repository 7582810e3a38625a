import EcmaModule.Grammar.Pattern.Check
import EcmaModule.Grammar.Token.Space
import EcmaModule.Grammar.Token.Surroundings
import EcmaModule.Grammar.Token.Word

/-! The next token of a source. -/
namespace EcmaModule.Grammar.Parse

/-- Ends the token where the scanner stands. -/
def finishToken (kind : TokenKind) (value : TokenValue := .none) : Parse Unit :=
  modify fun s => s.withToken kind value

/-- A token of the next `size` units, which are its value. -/
def operator (kind : TokenKind) (size : Nat) : Parse Unit := do
  let start ← pos
  let text := (← source).word start (start + size)
  advance size
  finishToken kind (.word text)

/-- A token of one unit without a value. -/
def mark (kind : TokenKind) : Parse Unit := do
  advance
  finishToken kind

/-! ### Regular expressions -/

/-- The end of a pattern that starts at `i`; nothing if the line ends first. -/
def patternEnd? (s : Source) : Nat → Nat → Bool → Bool → Option Nat
  | 0, _, _, _ => none
  | fuel + 1, i, escaped, inClass =>
    let c := s.unit i
    if c == noUnit || isNewline c then none
    else if escaped then patternEnd? s fuel (i + 1) false inClass
    else if c == 0x2F && !inClass then some i
    else patternEnd? s fuel (i + 1) (c == 0x5C) (c == 0x5B || (inClass && c != 0x5D))

/-- A regular expression after its opening slash. -/
def regularExpression : Parse Unit := do
  let s ← source
  let start ← pos
  match patternEnd? s (s.size + 1) start false false with
  | none =>
    moveTo (s.lineEnd start)
    raise start .unterminatedPattern
  | some stop =>
    let pattern := s.slice start stop
    moveTo (stop + 1)
    let flags ← wordUnits
    if (← reader).escaped then unexpectedAt (stop + 1)
    match Pattern.flagComplaint? flags with
    | some c => raise start c
    | none => pure ()
    let (complaints, failure) := Pattern.complaints pattern flags
    for c in complaints do
      complain start (.pattern pattern c)
    if let some message := failure then broken message
    finishToken .regexp (.pattern pattern flags)

/-! ### Punctuation -/

def dotToken : Parse Unit := do
  let next ← peek 1
  if isDecimalDigit next then finishToken .num (← decimalNumber true)
  else if next == 0x2E && (← peek 2) == 0x2E then
    advance 3
    finishToken .ellipsis
  else mark .dot

def slashToken : Parse Unit := do
  if (← get).exprAllowed then
    advance
    regularExpression
  else if (← peek 1) == 0x3D then operator .assign 2
  else operator .slash 1

def starToken (c : Nat) : Parse Unit := do
  let next ← peek 1
  if c == 0x2A && next == 0x2A then
    if (← peek 2) == 0x3D then operator .assign 3 else operator .starstar 2
  else if next == 0x3D then operator .assign 2
  else operator (if c == 0x2A then .star else .modulo) 1

/-- A bar or an ampersand, once or twice. -/
def logicalToken (c : Nat) (twice once : TokenKind) : Parse Unit := do
  let next ← peek 1
  if next == c then
    if (← peek 2) == 0x3D then operator .assign 3 else operator twice 2
  else if next == 0x3D then operator .assign 2
  else operator once 1

def caretToken : Parse Unit := do
  if (← peek 1) == 0x3D then operator .assign 2 else operator .bitXor 1

def signToken (c : Nat) : Parse Unit := do
  let next ← peek 1
  if next == c then operator .incDec 2
  else if next == 0x3D then operator .assign 2
  else operator .plusMin 1

/-- An angle bracket. Among types it stands alone, and so does the first one where an
expression is expected. -/
def angleToken (c : Nat) : Parse Unit := do
  let s ← get
  let next ← peek 1
  if s.types.inType then operator .relational 1
  else if s.dialect == .typescript && s.exprAllowed && c == 0x3C && next != 0x21 then operator .relational 1
  else if next == c then
    let size := if c == 0x3E && (← peek 2) == 0x3E then 3 else 2
    if (← peek size) == 0x3D then operator .assign (size + 1) else operator .bitShift size
  else operator .relational (if next == 0x3D then 2 else 1)

def equalsToken (c : Nat) : Parse Unit := do
  let next ← peek 1
  if next == 0x3D then operator .equality (if (← peek 2) == 0x3D then 3 else 2)
  else if c == 0x3D && next == 0x3E then
    advance 2
    finishToken .arrow
  else operator (if c == 0x3D then .eq else .bang) 1

def questionToken : Parse Unit := do
  let next ← peek 1
  let after ← peek 2
  if next == 0x2E && after != noUnit && !isDecimalDigit after then operator .questionDot 2
  else if next == 0x3F then
    if after == 0x3D then operator .assign 3 else operator .coalesce 2
  else operator .question 1

def unexpectedCharacter {α : Type} (c : Nat) : Parse α := do
  raise (← pos) (.unexpectedCharacter (if c == noUnit then none else some c))

def hashToken : Parse Unit := do
  advance
  let c ← peekPoint
  if startsWord c then
    let name ← word
    finishToken .privateId (.word name)
  else unexpectedCharacter c

/-- A zero, perhaps with a radix mark. -/
def zeroToken : Parse Unit := do
  let c ← peek 1
  let value ←
    if c == 0x78 || c == 0x58 then radixNumber 16
    else if c == 0x6F || c == 0x4F then radixNumber 8
    else if c == 0x62 || c == 0x42 then radixNumber 2
    else decimalNumber false
  finishToken .num value

/-- A token that starts with the code point `c`, which starts no word. -/
def punctuation (c : Nat) : Parse Unit := do
  match c with
  | 0x2E => dotToken
  | 0x28 => mark .parenL
  | 0x29 => mark .parenR
  | 0x3B => mark .semi
  | 0x2C => mark .comma
  | 0x5B => mark .bracketL
  | 0x5D => mark .bracketR
  | 0x7B => mark .braceL
  | 0x7D => mark .braceR
  | 0x3A => mark .colon
  | 0x60 => mark .backQuote
  | 0x30 => zeroToken
  | 0x22 => finishToken .string (← stringLiteral c)
  | 0x27 => finishToken .string (← stringLiteral c)
  | 0x2F => slashToken
  | 0x25 => starToken c
  | 0x2A => starToken c
  | 0x7C => logicalToken c .logicalOr .bitOr
  | 0x26 => logicalToken c .logicalAnd .bitAnd
  | 0x5E => caretToken
  | 0x2B => signToken c
  | 0x2D => signToken c
  | 0x3C => angleToken c
  | 0x3E => angleToken c
  | 0x3D => equalsToken c
  | 0x21 => equalsToken c
  | 0x3F => questionToken
  | 0x7E => operator .bang 1
  | 0x23 => hashToken
  | _ =>
    if isDecimalDigit c then finishToken .num (← decimalNumber false)
    else if c == 0x40 && (← isTyped) then mark .at
    else unexpectedCharacter c

/-! ### Tokens -/

def wordToken : Parse Unit := do
  let w ← word
  finishToken (← wordKind w) (.word w)

def templateTextToken : Parse Unit := do
  match ← templateToken with
  | .text cooked => finishToken .template (.string cooked)
  | .invalid raw => finishToken .invalidTemplate (.string raw)
  | .close => finishToken .backQuote
  | .substitution => finishToken .dollarBraceL

/-- Reads the next token. -/
def nextToken : Parse Unit := do
  let inTemplateText := (← get).context == .templateText
  unless inTemplateText do skipSpace
  let loc ← here
  modifyReader fun r => { r with start := r.pos, startLoc := loc }
  let s ← get
  if s.input.size ≤ s.reader.pos then finishToken .eof
  else if inTemplateText then templateTextToken
  else
    let c ← peekPoint
    if startsWord c then wordToken else punctuation c

/-- Goes on to the next token. A keyword must have been written without escapes, unless
it stood for a name. -/
def next (asName : Bool := false) : Parse Unit := do
  let r ← reader
  if let some k := r.kind.keyword? then
    if r.escaped && !asName then complain r.start (.escapedKeyword k.text)
  modifyReader fun r => { r with
    lastStart := r.start, lastStop := r.stop, lastStartLoc := r.startLoc, lastStopLoc := r.stopLoc }
  nextToken

end EcmaModule.Grammar.Parse
