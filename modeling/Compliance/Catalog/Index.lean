import Compliance.Catalog.Control
import Compliance.Table

/-!
# Indexes of catalogues

A policy names a control by its identifier or by its label.  The index of a
catalogue holds both for all controls and parts that are not too deep.  Of two
nodes with one label the later one in pre-order counts, and a label counts
before an identifier.
-/

namespace Compliance

/-- The known identifiers, and the identifiers that labels stand for. -/
structure CatalogIndex where
  ids : Table Unit
  byLabel : Table String
deriving DecidableEq, Inhabited

namespace CatalogIndex

/-- Nodes at this depth and deeper are not in the index. -/
def depthLimit : Nat := 64

mutual

/-- A control and its parts in pre-order, down to `room` levels. -/
def preorder : (room : Nat) → Control → List (String × Option String)
  | 0, _ => []
  | room + 1, .mk id label _ parts => (id, label) :: preorderAll room parts

/-- The controls of a list and their parts in pre-order, down to `room` levels. -/
def preorderAll : (room : Nat) → List Control → List (String × Option String)
  | _, [] => []
  | room, control :: others => preorder room control ++ preorderAll room others

end

/-- Takes in a node. -/
def add (index : CatalogIndex) (node : String × Option String) : CatalogIndex :=
  { ids := index.ids.insert node.1 ()
    byLabel := match node.2 with
      | some label => index.byLabel.insert label node.1
      | none => index.byLabel }

/-- The index of a forest. -/
def build (controls : List Control) : CatalogIndex :=
  (preorderAll depthLimit controls).foldl add ⟨∅, ∅⟩

/-- Whether an identifier is known. -/
def contains (index : CatalogIndex) (id : String) : Bool := index.ids.contains id

/-- The identifier that a name stands for. -/
def resolve (index : CatalogIndex) (name : String) : Option String :=
  match index.byLabel.get? name with
  | some id => some id
  | none => if index.contains name then some name else none

/-- The number of known identifiers. -/
def size (index : CatalogIndex) : Nat := index.ids.size

end CatalogIndex

end Compliance
