import EcmaModule.Text.Basic

/-! The table of interned names.

A name gets the next free number when it is first interned. Interning needs an
active scope; numbers, once given, stay. -/
namespace EcmaModule

/-- The interned names in order of their numbers, and how many scopes are open. -/
structure Atoms where
  names : List Text := []
  depth : Nat := 0
  deriving DecidableEq, Repr

namespace Atoms

def active (a : Atoms) : Bool := 0 < a.depth

def count (a : Atoms) : Nat := a.names.length

/-- The number of a name. -/
def lookup (a : Atoms) (name : Text) : Option Nat := a.names.findIdx? (· == name)

/-- The table with a name interned. -/
def insert (a : Atoms) (name : Text) : Atoms :=
  if a.names.contains name then a else { a with names := a.names ++ [name] }

/-- Interns a name and answers its number, provided a scope is active. -/
def intern? (a : Atoms) (name : Text) : Option (Nat × Atoms) :=
  if a.active then
    let a := a.insert name
    (a.lookup name).map fun n => (n, a)
  else none

/-- Opens a scope. -/
def opened (a : Atoms) : Atoms := { a with depth := a.depth + 1 }

/-- Closes a scope. -/
def closed (a : Atoms) : Atoms := { a with depth := a.depth - 1 }

end Atoms

end EcmaModule
