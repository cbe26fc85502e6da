import Compliance.Yaml.Token

/-!
# Nodes of YAML documents

A document is a tree of nodes, before anything is said about the meaning of its
scalars.  An alias refers to an anchored node by a number.  An anchor gets as its
number how many names are known at that point, so that giving a name a second
time makes its number collide with the next one; the last node with a number is
the one that its aliases stand for.
-/

namespace Compliance.Yaml

/-- A node with its anchor and its tag. -/
inductive Node where
  | aliasOf (number : Nat)
  | scalar (anchor : Option Nat) (tag : Option String) (text : String) (style : Style)
  | sequence (anchor : Option Nat) (tag : Option String) (items : List Node)
  | mapping (anchor : Option Nat) (tag : Option String) (entries : List (Node × Node))
deriving Inhabited

namespace Node

/-- The scalar that stands where a node is left out. -/
def absent : Node := scalar none none "" .plain

mutual

/-- The number of nodes, where a collection counts for its start and for its end. -/
def weight : Node → Nat
  | aliasOf _ => 1
  | scalar _ _ _ _ => 1
  | sequence _ _ items => 2 + weightOfItems items
  | mapping _ _ entries => 2 + weightOfEntries entries

/-- The weight of the nodes of a list. -/
def weightOfItems : List Node → Nat
  | [] => 0
  | item :: others => item.weight + weightOfItems others

/-- The weight of the keys and values of a list. -/
def weightOfEntries : List (Node × Node) → Nat
  | [] => 0
  | (key, value) :: others => key.weight + value.weight + weightOfEntries others

end

mutual

/-- The anchored nodes with their numbers, in the order of their starts. -/
def anchored : Node → List (Nat × Node)
  | aliasOf _ => []
  | scalar anchor tag text style =>
    (anchor.map fun number => (number, scalar anchor tag text style)).toList
  | sequence anchor tag items =>
    (anchor.map fun number => (number, sequence anchor tag items)).toList ++ anchoredItems items
  | mapping anchor tag entries =>
    (anchor.map fun number => (number, mapping anchor tag entries)).toList ++
      anchoredEntries entries

/-- The anchored nodes of a list. -/
def anchoredItems : List Node → List (Nat × Node)
  | [] => []
  | item :: others => item.anchored ++ anchoredItems others

/-- The anchored nodes of the keys and values of a list. -/
def anchoredEntries : List (Node × Node) → List (Nat × Node)
  | [] => []
  | (key, value) :: others => key.anchored ++ value.anchored ++ anchoredEntries others

end

end Node

end Compliance.Yaml
