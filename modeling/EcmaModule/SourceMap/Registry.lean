import EcmaModule.SourceMap.File

/-! The registry of source files.

Each file occupies its own range of global offsets, its end included, and the next
file starts one past that end; so a global offset belongs to at most one file. -/
namespace EcmaModule

structure SourceMap where
  files : List SourceFile := []

/-- A file by its number, and a byte offset within it. -/
structure SourceLookup where
  file : Nat
  offset : Int
  deriving DecidableEq, Repr

namespace SourceMap

/-- Where the next file starts. -/
def nextStart (m : SourceMap) : Nat :=
  match m.files.getLast? with
  | none => 0
  | some f => f.endPos + 1

def newFile (m : SourceMap) (name source : Text) : SourceMap :=
  ⟨m.files ++ [SourceFile.create name source m.nextStart]⟩

/-- The first file, from number `i` on, whose range holds a global offset. -/
def lookupFrom (pos : Int) : Nat → List SourceFile → Option SourceLookup
  | _, [] => none
  | i, f :: rest =>
    if (f.startPos : Int) ≤ pos ∧ pos ≤ f.endPos then some ⟨i, pos - f.startPos⟩
    else lookupFrom pos (i + 1) rest

def lookup (m : SourceMap) (pos : Int) : Option SourceLookup := lookupFrom pos 0 m.files

/-- Changes the file of a number. -/
def modify (m : SourceMap) (i : Nat) (change : SourceFile → SourceFile) : SourceMap :=
  ⟨m.files.modify i change⟩

end SourceMap

end EcmaModule
