import EcmaModule.Grammar.Complaint
import EcmaModule.Grammar.Pattern.Property
import EcmaModule.Grammar.Source
import EcmaModule.Number.Basic

/-! Checking the pattern of a regular expression.

A pattern is read as one that knows neither code points nor group names, unless its
flags or a named group in it say so; with a named group it is read a second time. A
complaint does not stop the reading, so one pattern can have several. -/
namespace EcmaModule.Grammar.Pattern

/-- How far a pattern has been read, and what was met. -/
structure CheckState where
  units : Source
  /-- The pattern is read by code point. -/
  unicode : Bool
  /-- Groups can be referred to by name. -/
  named : Bool
  pos : Nat := 0
  /-- The value of the last escape, digit or character; none for a whole class. -/
  value : Option Nat := none
  /-- The last name. -/
  name : Text := []
  /-- A quantifier may follow the last assertion. -/
  quantifiable : Bool := false
  captures : Nat := 0
  greatestReference : Nat := 0
  groupNames : List Text := []
  /-- Latest first. -/
  references : List Text := []
  /-- Latest first. -/
  complaints : List PatternComplaint := []

/-- A step of the check; it can fail with a message of the grammar's own. -/
abbrev Check := EStateM String CheckState

namespace Check

/-! ### Units -/

def complain (c : PatternComplaint) : Check Unit := modify fun s => { s with complaints := c :: s.complaints }

def setValue (v : Nat) : Check Unit := modify fun s => { s with value := some v }

/-- The unit or code point at a place; `noUnit` past the end. Any two surrogates of
which the second is a second half are joined. -/
def at_ (s : CheckState) (byPoint : Bool) (i : Nat) : Nat :=
  let c := s.units.unit i
  if !byPoint || c < 0xD800 || 0xDFFF < c || s.units.size ≤ i + 1 then c
  else
    let low := s.units.unit (i + 1)
    if 0xDC00 ≤ low && low ≤ 0xDFFF then 0x10000 + c * 0x400 + low - (0xD800 * 0x400 + 0xDC00) else c

/-- The place after the unit or code point at `i`. -/
def after (s : CheckState) (byPoint : Bool) (i : Nat) : Nat :=
  if s.units.size ≤ i then s.units.size
  else
    let c := s.units.unit i
    let low := s.units.unit (i + 1)
    if !byPoint || c < 0xD800 || 0xDFFF < c || s.units.size ≤ i + 1 || low < 0xDC00 || 0xDFFF < low then i + 1
    else i + 2

def current (force : Bool := false) : Check Nat := do
  let s ← get
  return at_ s (s.unicode || force) s.pos

def lookahead : Check Nat := do
  let s ← get
  return at_ s s.unicode (after s s.unicode s.pos)

def advance (force : Bool := false) : Check Unit :=
  modify fun s => { s with pos := after s (s.unicode || force) s.pos }

def eat (c : Nat) : Check Bool := do
  if (← current) == c then
    advance
    return true
  else return false

def place : Check Nat := return (← get).pos

def moveTo (pos : Nat) : Check Unit := modify fun s => { s with pos := pos }

def fuel : Check Nat := return (← get).units.size + 1

/-- Steps taken one after another until one succeeds. -/
def firstOf : List (Check Bool) → Check Bool
  | [] => return false
  | step :: rest => do if ← step then return true else firstOf rest

/-- A step that does not move unless it succeeds. -/
def orBack (step : Check Bool) : Check Bool := do
  let start ← place
  if ← step then return true
  moveTo start
  return false

/-- Eats the current unit and takes it as the value, if it is of the class. -/
def eatClass (holds : Nat → Bool) (valueOf : Nat → Nat := id) : Check Bool := do
  let c ← current
  if holds c then
    setValue (valueOf c)
    advance
    return true
  else return false

/-! ### Classes of units -/

def isLetter (c : Nat) : Bool := (0x41 ≤ c && c ≤ 0x5A) || (0x61 ≤ c && c ≤ 0x7A)

def isOctalDigit (c : Nat) : Bool := 0x30 ≤ c && c ≤ 0x37

def hexDigit? (c : Nat) : Option Nat :=
  if isDecimalDigit c then some (c - 0x30)
  else if 0x41 ≤ c && c ≤ 0x46 then some (c - 0x41 + 10)
  else if 0x61 ≤ c && c ≤ 0x66 then some (c - 0x61 + 10)
  else none

def isSyntaxCharacter (c : Nat) : Bool :=
  c == 0x24 || (0x28 ≤ c && c ≤ 0x2B) || c == 0x2E || c == 0x3F || (0x5B ≤ c && c ≤ 0x5E) || (0x7B ≤ c && c ≤ 0x7D)

/-- Units that stand for themselves only by tolerance. -/
def isToleratedCharacter (c : Nat) : Bool :=
  c != noUnit && c != 0x24 && !(0x28 ≤ c && c ≤ 0x2B) && c != 0x2E && c != 0x3F && c != 0x5B && c != 0x5E && c != 0x7C

def isClassLetter (c : Nat) : Bool := c == 0x64 || c == 0x44 || c == 0x73 || c == 0x53 || c == 0x77 || c == 0x57

/-! ### Digits -/

/-- Decimal digits, valued as a number and as a natural number. -/
def decimalDigits? : Nat → Number → Nat → Check (Number × Nat)
  | 0, x, n => return (x, n)
  | fuel + 1, x, n => do
    let c ← current
    if isDecimalDigit c then
      advance
      decimalDigits? fuel (x.pushDigit 10 (c - 0x30)) (n * 10 + (c - 0x30))
    else return (x, n)

/-- Decimal digits, if there are any. -/
def decimal? : Check (Option Number) := do
  let start ← place
  let (x, n) ← decimalDigits? (← fuel) (.int 0) 0
  setValue n
  return if (← place) == start then none else some x

def hexDigits : Nat → Nat → Check Nat
  | 0, n => return n
  | fuel + 1, n => do
    match hexDigit? (← current) with
    | some d =>
      advance
      hexDigits fuel (n * 16 + d)
    | none => return n

/-- Any number of hexadecimal digits but none. -/
def eatHexDigits : Check Bool := do
  let start ← place
  let n ← hexDigits (← fuel) 0
  setValue n
  return (← place) != start

/-- Exactly `count` hexadecimal digits. -/
def eatFixedHex (count : Nat) : Check Bool := do
  let start ← place
  setValue (← hexDigits count 0)
  if (← place) == start + count then return true
  moveTo start
  return false

/-! ### Names -/

def isWordStart (c : Nat) : Bool := Identifier.isStart c

def isWordPart (c : Nat) : Bool := Identifier.isPart c || c == 0x200C || c == 0x200D

/-- An escape of a code point. With `force` a pair of escapes is one code point whatever
the flags are. -/
def eatUnicodeEscape (force : Bool) : Check Bool := do
  let start ← place
  let byPoint := force || (← get).unicode
  unless ← eat 0x75 do return false
  if ← eatFixedHex 4 then
    let lead := (← get).value.getD 0
    if byPoint && 0xD800 ≤ lead && lead ≤ 0xDBFF then
      let leadEnd ← place
      if (← eat 0x5C) then
        if (← eat 0x75) then
          if (← eatFixedHex 4) then
            let trail := (← get).value.getD 0
            if 0xDC00 ≤ trail && trail ≤ 0xDFFF then
              setValue (Text.joinPair lead.toUInt16 trail.toUInt16)
              return true
      moveTo leadEnd
      setValue lead
    return true
  if byPoint then
    if ← eat 0x7B then
      if ← eatHexDigits then
        if ← eat 0x7D then
          if (← get).value.getD 0 ≤ 0x10FFFF then return true
    complain .invalidUnicodeEscape
  moveTo start
  return false

/-- One code point of a group's name. -/
def eatNamePoint (holds : Nat → Bool) : Check Bool := do
  let start ← place
  let c ← current true
  advance true
  let escaped ← if c == 0x5C then eatUnicodeEscape true else pure false
  let s ← get
  let c := if escaped then s.value.getD 0 else c
  if holds c then
    modify fun s => { s with value := some c, name := s.name ++ Text.unitsOf c }
    return true
  moveTo start
  return false

def eatNameRest : Nat → Check Unit
  | 0 => return
  | fuel + 1 => do if ← eatNamePoint isWordPart then eatNameRest fuel

/-- The name of a group between angle brackets. -/
def eatGroupName : Check Bool := do
  modify fun s => { s with name := [] }
  unless ← eat 0x3C do return false
  if ← eatNamePoint isWordStart then
    eatNameRest (← fuel)
    if ← eat 0x3E then return true
  complain .invalidCaptureGroupName
  return false

/-! ### Unicode properties -/

def propertyWord (holds : Nat → Bool) : Nat → List Nat → Check (List Nat)
  | 0, cs => return cs.reverse
  | fuel + 1, cs => do
    let c ← current
    if holds c then
      advance
      propertyWord holds fuel (c :: cs)
    else return cs.reverse

def propertyName : Check String := do
  let cs ← propertyWord (fun c => isLetter c || c == 0x5F) (← fuel) []
  return String.ofList (cs.map Char.ofNat)

def propertyValue : Check String := do
  let cs ← propertyWord (fun c => isLetter c || c == 0x5F || isDecimalDigit c) (← fuel) []
  return String.ofList (cs.map Char.ofNat)

/-- Whether a property can have a value. -/
def checkPropertyValue (name value : String) : Check Unit := do
  match Property.values? name with
  | some values => unless values.contains value do complain .invalidPropertyValue
  | none =>
    complain .invalidPropertyName
    if Property.inheritedNames.contains name then
      throw "state.unicodeProperties.nonBinary[name].test is not a function"
    else throw "Cannot read properties of undefined (reading 'test')"

/-- What stands between the braces of a property. -/
def eatProperty : Check Bool := do
  let start ← place
  let name ← propertyName
  if name != "" then
    if ← eat 0x3D then
      let value ← propertyValue
      if value != "" then
        checkPropertyValue name value
        return true
  moveTo start
  let lone ← propertyValue
  if lone == "" then return false
  if Property.isLone lone then return true
  complain .invalidPropertyName
  return false

/-- A class named by a letter, or by a property. -/
def eatClassEscape : Check Bool := do
  let c ← current
  if isClassLetter c then
    modify fun s => { s with value := none }
    advance
    return true
  if (← get).unicode && (c == 0x50 || c == 0x70) then
    modify fun s => { s with value := none }
    advance
    if ← eat 0x7B then
      if ← eatProperty then
        if ← eat 0x7D then return true
    complain .invalidPropertyName
  return false

/-! ### Escapes of characters -/

def controlEscape? (c : Nat) : Option Nat :=
  match c with
  | 0x74 => some 9
  | 0x6E => some 10
  | 0x76 => some 11
  | 0x66 => some 12
  | 0x72 => some 13
  | _ => none

def eatControlEscape : Check Bool := do
  match controlEscape? (← current) with
  | some v =>
    setValue v
    advance
    return true
  | none => return false

def eatControlLetter : Check Bool := orBack do
  if ← eat 0x63 then eatClass isLetter (· % 0x20) else return false

def eatZero : Check Bool := do
  if (← current) == 0x30 && !isDecimalDigit (← lookahead) then
    setValue 0
    advance
    return true
  else return false

def eatHexEscape : Check Bool := do
  let start ← place
  unless ← eat 0x78 do return false
  if ← eatFixedHex 2 then return true
  if (← get).unicode then complain .hexDigitsExpected
  moveTo start
  return false

def eatOctalDigit : Check Bool := eatClass isOctalDigit (· - 0x30)

/-- Up to three octal digits, for a value below 256. -/
def eatOctalEscape : Check Bool := do
  unless ← eatOctalDigit do return false
  let n := (← get).value.getD 0
  if ← eatOctalDigit then
    let n := n * 8 + (← get).value.getD 0
    if n ≤ 31 then
      if ← eatOctalDigit then
        setValue (n * 8 + (← get).value.getD 0)
        return true
    setValue n
  else setValue n
  return true

def eatIdentityEscape : Check Bool := do
  let s ← get
  let c ← current
  if s.unicode then eatClass fun c => isSyntaxCharacter c || c == 0x2F
  else if c != 0x63 && (!s.named || c != 0x6B) then
    setValue c
    advance
    return true
  else return false

def eatCharacterEscape : Check Bool := firstOf [
  eatControlEscape, eatControlLetter, eatZero, eatHexEscape, eatUnicodeEscape false,
  do if (← get).unicode then return false else eatOctalEscape,
  eatIdentityEscape]

/-- A reference to a group by number. Without code points it must be to a group
already closed. -/
def eatBackReference : Check Bool := do
  let start ← place
  let c ← current
  unless 0x31 ≤ c && c ≤ 0x39 do return false
  let (_, n) ← decimalDigits? (← fuel) (.int 0) 0
  setValue n
  if (← get).unicode then
    modify fun s => { s with greatestReference := max s.greatestReference n }
    return true
  if n ≤ (← get).captures then return true
  moveTo start
  return false

def eatNamedReference : Check Bool := do
  unless (← get).named do return false
  unless ← eat 0x6B do return false
  if ← eatGroupName then
    modify fun s => { s with references := s.name :: s.references }
    return true
  complain .invalidNamedReference
  return false

/-- What follows a backslash outside a class. -/
def eatAtomEscape : Check Bool := do
  if ← firstOf [eatBackReference, eatClassEscape, eatCharacterEscape, eatNamedReference] then return true
  if (← get).unicode then
    if (← current) == 0x63 then complain .invalidUnicodeEscape
    complain .invalidEscape
  return false

/-! ### Classes -/

/-- What follows a backslash in a class. -/
def eatEscapeInClass : Check Bool := do
  if ← eat 0x62 then
    setValue 8
    return true
  if (← get).unicode then
    if ← eat 0x2D then
      setValue 0x2D
      return true
  else
    let start ← place
    if ← eat 0x63 then
      if ← eatClass (fun c => isDecimalDigit c || c == 0x5F) (· % 0x20) then return true
      moveTo start
  firstOf [eatClassEscape, eatCharacterEscape]

def eatClassAtom : Check Bool := do
  let start ← place
  if ← eat 0x5C then
    if ← eatEscapeInClass then return true
    if (← get).unicode then
      let c ← current
      if c == 0x63 || isOctalDigit c then complain .invalidClassEscape
      complain .invalidEscape
    moveTo start
  eatClass (· != 0x5D)

/-- The value of the last atom against the one before it. -/
def checkRange (left right : Option Nat) : Check Unit := do
  match left, right with
  | some l, some r => if r < l then complain .rangeOutOfOrder
  | _, _ => if (← get).unicode then complain .invalidCharacterClass

def classRanges : Nat → Check Unit
  | 0 => return
  | fuel + 1 => do
    if ← eatClassAtom then
      let left := (← get).value
      if ← eat 0x2D then
        if ← eatClassAtom then checkRange left (← get).value
      classRanges fuel

def eatCharacterClass : Check Bool := do
  unless ← eat 0x5B do return false
  discard <| eat 0x5E
  unless (← current) == 0x5D do classRanges (← fuel)
  unless ← eat 0x5D do complain .unterminatedCharacterClass
  return true

/-! ### Quantifiers -/

/-- Bounds in braces; without complaint where they may stand for themselves. -/
def eatBraces (silent : Bool) : Check Bool := do
  let start ← place
  unless ← eat 0x7B do return false
  if let some low ← decimal? then
    let high ← if ← eat 0x2C then decimal? else pure none
    if ← eat 0x7D then
      if !silent && high.elim false fun h => h.lt low then complain .numbersOutOfOrder
      return true
  if (← get).unicode && !silent then complain .incompleteQuantifier
  moveTo start
  return false

def eatQuantifier (silent : Bool) : Check Bool := do
  if ← firstOf [eat 0x2A, eat 0x2B, eat 0x3F, eatBraces silent] then
    discard <| eat 0x3F
    return true
  else return false

/-! ### Groups and terms -/

/-- The question mark of a group and the name after it. -/
def groupName : Check Unit := do
  if ← eat 0x3F then
    unless ← eatGroupName do complain .invalidGroup
    let s ← get
    if s.groupNames.contains s.name then complain .duplicateGroupName
    modify fun s => { s with groupNames := s.name :: s.groupNames }

def eatPlainGroup (inner : Check Unit) : Check Bool := orBack do
  unless ← eat 0x28 do return false
  unless ← eat 0x3F do return false
  unless ← eat 0x3A do return false
  inner
  if ← eat 0x29 then return true
  complain .unterminatedGroup
  return false

def eatCapturingGroup (inner : Check Unit) : Check Bool := do
  unless ← eat 0x28 do return false
  groupName
  inner
  if ← eat 0x29 then
    modify fun s => { s with captures := s.captures + 1 }
    return true
  complain .unterminatedGroup
  return false

def eatLookaround (inner : Check Unit) : Check Bool := orBack do
  unless ← eat 0x28 do return false
  unless ← eat 0x3F do return false
  let behind ← eat 0x3C
  unless ← firstOf [eat 0x3D, eat 0x21] do return false
  inner
  unless ← eat 0x29 do complain .unterminatedGroup
  modify fun s => { s with quantifiable := !behind }
  return true

def eatAssertion (inner : Check Unit) : Check Bool := do
  modify fun s => { s with quantifiable := false }
  firstOf [eat 0x5E, eat 0x24,
    orBack do if ← eat 0x5C then firstOf [eat 0x42, eat 0x62] else return false,
    eatLookaround inner]

def eatPlainCharacters : Nat → Check Unit
  | 0 => return
  | fuel + 1 => do
    let c ← current
    if c != noUnit && !isSyntaxCharacter c then
      advance
      eatPlainCharacters fuel

def eatEscapedAtom : Check Bool := orBack do
  if ← eat 0x5C then eatAtomEscape else return false

/-- An atom of a pattern by code point. -/
def eatStrictAtom (inner : Check Unit) : Check Bool := do
  let start ← place
  eatPlainCharacters (← fuel)
  if (← place) != start then return true
  firstOf [eat 0x2E, eatEscapedAtom, eatCharacterClass, eatPlainGroup inner, eatCapturingGroup inner]

/-- An atom of a pattern by unit, in which stray brackets stand for themselves. -/
def eatTolerantAtom (inner : Check Unit) : Check Bool :=
  firstOf [eat 0x2E, eatEscapedAtom, eatCharacterClass, eatPlainGroup inner, eatCapturingGroup inner,
    do
      if ← eatBraces true then complain .nothingToRepeat
      return false,
    do
      let c ← current
      if isToleratedCharacter c then
        advance
        return true
      else return false]

def eatTerm (inner : Check Unit) : Check Bool := do
  if ← eatAssertion inner then
    if (← get).quantifiable then
      if ← eatQuantifier false then
        if (← get).unicode then complain .invalidQuantifier
    return true
  if ← if (← get).unicode then eatStrictAtom inner else eatTolerantAtom inner then
    discard <| eatQuantifier false
    return true
  return false

def alternative (inner : Check Unit) : Nat → Check Unit
  | 0 => return
  | fuel + 1 => do
    let s ← get
    if s.pos < s.units.size then
      if ← eatTerm inner then alternative inner fuel

def moreAlternatives (inner : Check Unit) (length : Nat) : Nat → Check Unit
  | 0 => return
  | fuel + 1 => do
    if ← eat 0x7C then
      alternative inner length
      moreAlternatives inner length fuel

/-- Alternatives; groups nest at most `depth` deep. -/
def disjunction : Nat → Check Unit
  | 0 => return
  | depth + 1 => do
    let length ← fuel
    alternative (disjunction depth) length
    moreAlternatives (disjunction depth) length length
    if ← eatQuantifier true then complain .nothingToRepeat
    if ← eat 0x7B then complain .loneQuantifierBrackets

/-- The whole pattern, from its start. -/
def pattern : Check Unit := do
  modify fun s => { s with
    pos := 0, value := some 0, name := [], quantifiable := false, captures := 0, greatestReference := 0,
    groupNames := [], references := [] }
  disjunction ((← fuel) + 1)
  let s ← get
  if s.pos != s.units.size then
    if ← eat 0x29 then complain .unmatched
    if ← firstOf [eat 0x5D, eat 0x7D] then complain .loneQuantifierBrackets
  let s ← get
  if s.captures < s.greatestReference then complain .invalidReference
  for name in s.references.reverse do
    unless s.groupNames.contains name do complain .invalidNamedCapture

/-- The pattern, and once more with names if it turned out to hold some. -/
def patternTwice : Check Unit := do
  pattern
  let s ← get
  if !s.named && !s.groupNames.isEmpty then
    set { s with named := true }
    pattern

end Check

/-! ### The whole check -/

/-- Flags a regular expression can have. -/
def flags : List UInt16 := Text.ofString "gimuysd"

/-- What is wrong with the flags: the first that is unknown or comes again. -/
def flagComplaint? : Text → Option Complaint
  | [] => none
  | f :: rest =>
    if !flags.contains f then some .invalidPatternFlag
    else if rest.contains f then some .duplicatePatternFlag
    else flagComplaint? rest

/-- What is wrong with a pattern, in order, and the message of a failure if the check
itself failed. -/
def complaints (source : Text) (flags : Text) : List PatternComplaint × Option String :=
  let unicode := flags.contains 0x75
  let start : CheckState := { units := source.toArray, unicode := unicode, named := unicode }
  match Check.patternTwice.run start with
  | .ok _ s => (s.complaints.reverse, none)
  | .error e s => (s.complaints.reverse, some e)

end EcmaModule.Grammar.Pattern
