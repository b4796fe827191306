import Converge.Yaml.Scalar

/-!
# Nodes

A document as a tree of nodes. A node may have a number by which references elsewhere mean it; a
reference is resolved only when its node is read, so a document may refer to what is around or
behind the reference.
-/

namespace Converge.Yaml

/-- What may be said of a node in front of it: its number and its tag. -/
structure Properties where
  number : Option Nat
  tag : Option String
  deriving DecidableEq, Repr

/-- Nothing said of a node. -/
def Properties.none : Properties := ⟨.none, .none⟩

/-- A node of a document. -/
inductive Node where
  | scalar (properties : Properties) (style : ScalarStyle) (text : String)
  | sequence (properties : Properties) (items : List Node)
  | mapping (properties : Properties) (entries : List (Node × Node))
  | reference (number : Nat)

namespace Node

/-- The node where nothing is written. -/
def empty : Node := .scalar .none .plain ""

mutual

/-- The number of marks of a node: one for a scalar or a reference, two for a collection. -/
def size : Node → Nat
  | .scalar _ _ _ => 1
  | .reference _ => 1
  | .sequence _ items => sizeItems items + 2
  | .mapping _ entries => sizeEntries entries + 2

/-- The number of marks of some nodes. -/
def sizeItems : List Node → Nat
  | [] => 0
  | item :: items => item.size + sizeItems items

/-- The number of marks of the entries of a mapping. -/
def sizeEntries : List (Node × Node) → Nat
  | [] => 0
  | (key, value) :: entries => key.size + value.size + sizeEntries entries

end

/-- A node with the number that is said of it, if one is. -/
def entry (node : Node) (properties : Properties) : List (Nat × Node) :=
  (properties.number.map fun number => (number, node)).toList

mutual

/-- The numbered nodes of a tree, in the order in which they begin. -/
def numbered : Node → List (Nat × Node)
  | .scalar properties style text => (Node.scalar properties style text).entry properties
  | .reference _ => []
  | .sequence properties items =>
    (Node.sequence properties items).entry properties ++ numberedItems items
  | .mapping properties entries =>
    (Node.mapping properties entries).entry properties ++ numberedEntries entries

/-- The numbered nodes of some trees. -/
def numberedItems : List Node → List (Nat × Node)
  | [] => []
  | item :: items => item.numbered ++ numberedItems items

/-- The numbered nodes of the entries of a mapping. -/
def numberedEntries : List (Node × Node) → List (Nat × Node)
  | [] => []
  | (key, value) :: entries => key.numbered ++ value.numbered ++ numberedEntries entries

end

/-- The last node of a number in a tree. -/
def target? (root : Node) (number : Nat) : Option Node :=
  (root.numbered.findRev? fun entry => entry.1 == number).map (·.2)

end Node

end Converge.Yaml
