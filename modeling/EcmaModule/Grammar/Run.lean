import EcmaModule.Configuration

/-! What a grammar does with a source: it reads comments, reports errors it can go
on from, and ends with a tree or with something thrown.

The engine knows a grammar only as a function to such runs. -/
namespace EcmaModule

namespace Grammar

/-- Something a grammar delivers while it runs. Positions are code unit indices. -/
inductive Event where
  | comment (isBlock : Bool) (text : Text) (start stop : Int)
  /-- An error the grammar goes on from. -/
  | complaint (pos : Int) (message : Text)
  deriving DecidableEq, Repr

/-- What a grammar throws. -/
inductive Thrown where
  /-- A syntax error, with the position it points at and the one it was raised at. -/
  | syntaxError (message : Text) (pos raisedAt : Option Int)
  /-- Anything else, known by its message. -/
  | other (message : Text)
  deriving DecidableEq, Repr

inductive Ending where
  | tree (module : Value)
  | thrown (what : Thrown)

/-- The tree that a run came to. Where undefined stands for one there is none. -/
def Ending.module? : Ending → Option Value
  | .tree .undefined => none
  | .tree module => some module
  | .thrown _ => none

structure Run where
  events : List Event
  ending : Ending

end Grammar

/-- A grammar of both dialects. -/
abbrev Grammar := Dialect → Text → Grammar.Run

end EcmaModule
