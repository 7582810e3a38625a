import EcmaModule.Value

/-! Visiting the nodes of a tree.

A node is an object with a string `type` and numbers `start` and `end`. Visits go
depth first, a node before what it holds, fields in order; an array is looked
through, a field that holds location data is passed by, and so is everything below
an object that is no node. -/
namespace EcmaModule.Tree

/-- An object seen as a node. -/
structure Node where
  kind : Text
  start : Number
  stop : Number
  fields : Value.Fields
  deriving Inhabited

/-- The node that a list of fields makes. -/
def nodeOf? (fields : Value.Fields) : Option Node :=
  match Value.lookup fields "type", Value.lookup fields "start", Value.lookup fields "end" with
  | some (.string kind), some (.number start), some (.number stop) => some ⟨kind, start, stop, fields⟩
  | _, _, _ => none

/-- The node a value is. -/
def node? : Value → Option Node
  | .object fields => nodeOf? fields
  | _ => none

/-- A field of a node. -/
def Node.get (n : Node) (key : Text) : Value := (Value.lookup n.fields key).getD .undefined

def Node.isKind (n : Node) (kind : Text) : Bool := n.kind == kind

/-- Fields that hold location data. -/
def isLocation (key : Text) : Bool := key == Text.ofString "loc" || key == Text.ofString "range"

/-- A node met, and the node it was met below. -/
structure Visit where
  node : Node
  parent : Option Node
  deriving Inhabited

mutual

/-- The visits of a value below a node. -/
def visitsBelow (parent : Option Node) : Value → List Visit
  | .array items => visitsOfItems parent items
  | .object fields =>
    match nodeOf? fields with
    | none => []
    | some n => ⟨n, parent⟩ :: visitsOfFields (some n) fields
  | _ => []

def visitsOfItems (parent : Option Node) : List Value → List Visit
  | [] => []
  | v :: rest => visitsBelow parent v ++ visitsOfItems parent rest

def visitsOfFields (parent : Option Node) : List (Text × Value) → List Visit
  | [] => []
  | f :: rest =>
    (if isLocation f.1 then [] else visitsBelow parent f.2) ++ visitsOfFields parent rest

end

/-- The visits of a tree, in order. -/
def visits (root : Value) : List Visit := visitsBelow none root

end EcmaModule.Tree
