/-
# Nodes

The tree of nodes of a document.  An alias stands for a node elsewhere by its number: the last
node with that number is meant.
-/

namespace DeviceFleet.Yaml

/-- A node of a document. -/
inductive Node where
  /-- The node with the given number. -/
  | alias (number : Nat)
  /-- A scalar. -/
  | scalar (number : Option Nat) (tag : Option (List Char)) (isPlain : Bool) (text : List Char)
  /-- A sequence of items. -/
  | sequence (number : Option Nat) (items : List Node)
  /-- A mapping of keys to values. -/
  | mapping (number : Option Nat) (entries : List (Node × Node))
deriving Repr

namespace Node

/-- The number of a node that has a name. -/
def number? : Node → Option Nat
  | .alias _ => none
  | .scalar number .. => number
  | .sequence number _ => number
  | .mapping number _ => number

mutual

/-- A node and all nodes in it, in the order in which they start. -/
def all : Node → List Node
  | .alias number => [.alias number]
  | .scalar number tag isPlain text => [.scalar number tag isPlain text]
  | .sequence number items => .sequence number items :: allOf items
  | .mapping number entries => .mapping number entries :: allOfEntries entries

/-- The given nodes and all nodes in them. -/
def allOf : List Node → List Node
  | [] => []
  | n :: r => n.all ++ allOf r

/-- The nodes of the given entries and all nodes in them. -/
def allOfEntries : List (Node × Node) → List Node
  | [] => []
  | e :: r => e.1.all ++ e.2.all ++ allOfEntries r

end

/-- The node that `n` stands for in the document with the given root: for an alias the last node
with its number. -/
def resolved (n root : Node) : Option Node :=
  match n with
  | .alias number => (root.all.filter fun m => m.number? == some number).getLast?
  | _ => some n

end Node

end DeviceFleet.Yaml
