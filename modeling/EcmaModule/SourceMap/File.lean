import EcmaModule.Diagnostic.Record
import EcmaModule.SourceMap.Lines

/-! A registered source file.

Positions of the grammar are indices of code units; spans handed to callers are
byte offsets. An offset is resolved from the start of its line, or from the offset
resolved last when that lies on the same line and not behind the index. -/
namespace EcmaModule

/-- The offset resolved last. -/
structure Cursor where
  line : Nat
  index : Int
  byte : Nat
  deriving DecidableEq, Repr

structure SourceFile where
  name : Text
  source : Text
  /-- Global offset of the first byte of the file inside its source map. -/
  startPos : Nat
  table : Array LineSpan
  cursor : Cursor
  /-- The table is that of the source. -/
  table_eq : table = LineSpan.ofText source := by rfl

namespace SourceFile

def create (name source : Text) (startPos : Nat) : SourceFile where
  name := name
  source := source
  startPos := startPos
  table := LineSpan.ofText source
  cursor := ⟨0, 0, 0⟩

instance : Inhabited SourceFile := ⟨create [] [] 0⟩

def lineCount (f : SourceFile) : Nat := f.table.size

def lineOf (f : SourceFile) (index : Int) : Nat := LineSpan.lineOf f.table index

/-- The span of a line counted from zero. -/
def lineSpan (f : SourceFile) (line : Nat) : LineSpan := LineSpan.get f.table line

/-- The bytes of the source: those before its last line, and those of that line. -/
def byteLength (f : SourceFile) : Nat :=
  let last := f.lineSpan (f.lineCount - 1)
  last.byteStart + Utf8.byteLength (f.source.drop last.start)

def endPos (f : SourceFile) : Nat := f.startPos + f.byteLength

/-- Where counting starts for an index: the cursor if it helps, else the line start. -/
def anchor (f : SourceFile) (index : Int) : Int × Nat :=
  let line := f.lineOf index
  let span := f.lineSpan line
  if f.cursor.line = line ∧ (span.start : Int) < f.cursor.index ∧ f.cursor.index ≤ index then
    (f.cursor.index, f.cursor.byte)
  else (span.start, span.byteStart)

/-- The byte offset of an index. -/
def byteOffset (f : SourceFile) (index : Int) : Nat :=
  let (start, byte) := f.anchor index
  byte + Utf8.byteLength (f.source.slice start index)

/-- The file after the byte offset of an index has been resolved. -/
def resolve (f : SourceFile) (index : Int) : SourceFile :=
  { f with cursor := ⟨f.lineOf index, index, f.byteOffset index⟩ }

def position (f : SourceFile) (index : Int) : Position :=
  let line := f.lineOf index
  ⟨line + 1, index - (f.lineSpan line).start⟩

/-- The text of a line counted from one, without its terminator. -/
def lineText? (f : SourceFile) (line : Int) : Option Text :=
  if line < 1 ∨ f.lineCount < line then none
  else
    let span := f.lineSpan (line - 1).toNat
    some (f.source.slice span.start span.stop)

end SourceFile

end EcmaModule
