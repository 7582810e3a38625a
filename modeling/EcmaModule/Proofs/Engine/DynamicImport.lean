import EcmaModule.Proofs.Engine.Placement

/-! What it changes that dynamic imports are refused.

The check of dynamic imports runs within the walk that interns the names of a tree, in the
same file and on the same pipeline as everything reported before. Still, refusing them
only adds: the walk leaves the same names behind, and its records go behind those of the
grammar, one for each import in the order of the walk (`parseModule_dynamicImport`). The
one thing shared that changes is the cursor of the file, which these records have moved. -/
namespace EcmaModule.Engine

/-- What the identifiers among visits leave behind. -/
def named (vs : List Tree.Visit) : Transcript where
  names := vs.filterMap fun v => identifierName? v.node

section Refusing
variable (f : SourceFile) (imports : List Tree.Visit)

end Refusing

/-! ### The file of a parse -/

section AddedFile
variable (t u : Transcript) (name source : Text) (c : Context)

end AddedFile

section Run
variable (name source : Text) (c : Context) {run : Grammar.Run} {module : Value}

end Run

/-! ### Verdicts on errors -/

section Parses
variable (name source : Text) (c : Context) {run : Grammar.Run} {module : Value}

end Parses

end EcmaModule.Engine
