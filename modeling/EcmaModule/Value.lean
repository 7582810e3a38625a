import EcmaModule.Number.Basic
import EcmaModule.Text.Basic

/-! Dynamic values: what a tree, a request or a response is made of.

A value is JSON-like, with the literals JSON cannot carry beside it. An object is
a list of fields whose order is observable; `ofFields` puts fields into the order
in which they are enumerated. -/
namespace EcmaModule

inductive Value where
  | undefined
  | null
  | bool (b : Bool)
  | number (n : Number)
  | bigint (n : Int)
  | regexp (pattern flags : Text)
  | string (t : Text)
  | array (items : List Value)
  | object (fields : List (Text × Value))
  /-- A reference to an object that encloses this place, so the value is cyclic. -/
  | enclosing
  deriving Inhabited

namespace Value

abbrev Fields := List (Text × Value)

/-! ### Order of fields -/

def isDigit (u : UInt16) : Bool := 0x30 ≤ u && u ≤ 0x39

/-- The value of decimal digits. -/
def digitsValue (t : Text) : Nat := t.foldl (fun n u => n * 10 + (u.toNat - 0x30)) 0

/-- The index a key names: decimal digits without a leading zero, below `2^32 - 1`. -/
def indexOfKey? (key : Text) : Option Nat :=
  match key with
  | [] => none
  | [0x30] => some 0
  | u :: _ =>
    if u != 0x30 && key.all isDigit && key.length ≤ 10 then
      let n := digitsValue key
      if n < 0xFFFFFFFF then some n else none
    else none

/-- A field takes the place of the earlier one of the same key, else goes to the end. -/
def setField (fields : Fields) (key : Text) (value : Value) : Fields :=
  if fields.any fun f => f.1 == key then
    fields.map fun f => if f.1 == key then (key, value) else f
  else fields ++ [(key, value)]

/-- Puts a field with index `n` before the first field with a greater one. -/
def insertIndexed (n : Nat) (field : Nat × Text × Value) : List (Nat × Text × Value) → List (Nat × Text × Value)
  | [] => [field]
  | f :: rest => if n < f.1 then field :: f :: rest else f :: insertIndexed n field rest

/-- Fields in enumeration order: indices first, ascending, then the other keys as
they came. -/
def enumerate (fields : Fields) : Fields :=
  let indexed := fields.filterMap fun f => (indexOfKey? f.1).map fun n => (n, f.1, f.2)
  let named := fields.filter fun f => (indexOfKey? f.1).isNone
  (indexed.foldl (fun sorted f => insertIndexed f.1 f sorted) []).map (·.2) ++ named

/-- An object from its fields as written: a repeated key keeps its first place and
its last value. -/
def ofFields (fields : Fields) : Value :=
  object (enumerate (fields.foldl (fun fs f => setField fs f.1 f.2) []))

/-! ### Access -/

/-- The value of a field of a field list. -/
def lookup (fields : Fields) (key : Text) : Option Value :=
  (fields.find? fun f => f.1 == key).map (·.2)

/-- A field of an object; `undefined` for a missing one and for any other value. -/
def get (v : Value) (key : Text) : Value :=
  match v with
  | object fields => (lookup fields key).getD undefined
  | _ => undefined

def isArray : Value → Bool
  | array _ => true
  | _ => false

/-- An object that is not an array; regular expressions are objects too. -/
def isRecord : Value → Bool
  | object _ => true
  | regexp _ _ => true
  | enclosing => true
  | _ => false

def text? : Value → Option Text
  | string t => some t
  | _ => none

def number? : Value → Option Number
  | number n => some n
  | _ => none

def bool? : Value → Option Bool
  | bool b => some b
  | _ => none

end Value

end EcmaModule
