import EcmaModule.Grammar.State

/-! Between tokens: blanks, line ends and comments.

A comment is delivered when it is read, except while the scanner looks ahead. -/
namespace EcmaModule.Grammar

namespace Parse

/-- Delivers a comment, unless the scanner looks ahead. -/
def comment (isBlock : Bool) (text : Text) (start stop : Nat) : Parse Unit :=
  modify fun s =>
    if s.types.lookingAhead then s
    else { s with events := .comment isBlock text start stop :: s.events }

/-- Counts the lines that end between two positions. -/
def countLines (start stop : Nat) : Parse Unit := do
  let s ← source
  let r ← reader
  let (line, lineStart) := s.countLines (stop - start) start stop r.line r.lineStart
  modifyReader fun r => { r with line := line, lineStart := lineStart }

def skipBlockComment : Parse Unit := do
  let start ← pos
  advance 2
  match (← source).findCommentEnd? (start + 2) with
  | none => raise start .unterminatedComment
  | some stop =>
    moveTo (stop + 2)
    countLines start (stop + 2)
    comment true ((← source).slice (start + 2) stop) start (stop + 2)

/-- Skips a comment to the end of the line; `opening` units introduce it. -/
def skipLineComment (opening : Nat) : Parse Unit := do
  let start ← pos
  let stop := (← source).lineEnd (start + opening)
  moveTo stop
  comment false ((← source).slice (start + opening) stop) start stop

/-- Skips one blank, line end or comment, and says whether there was one. -/
def skipOne : Parse Bool := do
  let c ← peek
  if c == 13 && (← peek 1) == 10 then
    advance 2
    startLine
    return true
  else if isNewline c then
    advance
    startLine
    return true
  else if isSpace c then
    advance
    return true
  else if c == 0x2F && (← peek 1) == 0x2A then
    skipBlockComment
    return true
  else if c == 0x2F && (← peek 1) == 0x2F then
    skipLineComment 2
    return true
  else return false

/-- Skips everything that stands before the next token. -/
def skipSpace : Parse Unit := do
  for _ in [0 : ← steps] do
    unless ← skipOne do return

end Parse

end EcmaModule.Grammar
