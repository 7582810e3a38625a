import EcmaModule.Diagnostic.Record

/-! Comments, kept by file.

Looking ahead can read a comment more than once; a comment is kept once per file
and start offset. -/
namespace EcmaModule

inductive CommentKind where
  | line
  | block
  deriving DecidableEq, Repr

def CommentKind.name : CommentKind → String
  | .line => "line"
  | .block => "block"

structure Comment where
  kind : CommentKind
  /-- The text between the delimiters. -/
  text : Text
  span : Span
  deriving DecidableEq, Repr

/-- Comments with the number of the file they were read from, in order of reading; a file
that is not registered has no number. -/
structure CommentStore where
  entries : List (Option Nat × Comment) := []

namespace CommentStore

def ofFile (s : CommentStore) (file : Option Nat) : List Comment :=
  (s.entries.filter fun e => e.1 == file).map (·.2)

/-- The comments of a registered file. -/
def forFile (s : CommentStore) (file : Nat) : List Comment := s.ofFile (some file)

def holds (s : CommentStore) (file : Option Nat) (lo : Int) : Bool :=
  s.entries.any fun e => e.1 == file && e.2.span.lo == lo

def add (s : CommentStore) (file : Option Nat) (c : Comment) : CommentStore :=
  if s.holds file c.span.lo then s else ⟨s.entries ++ [(file, c)]⟩

def size (s : CommentStore) : Nat := s.entries.length

end CommentStore

end EcmaModule
