import Multigraph.Graph.Basic

/-!
Grids. A grid says which node of a product stands for a pair of nodes of the two factors. It keeps
its pairs twice: in one table by pair, and in one table for each first node, so that a row can be
read at once. Assigning a pair anew replaces its node and keeps its place.
-/
namespace Multigraph

/-- The pairs of a product with their nodes, by pair and by row. -/
structure Grid where
  pairs : Table (NodeId × NodeId) NodeId := ∅
  rows : Table NodeId (Table NodeId NodeId) := ∅
  deriving Inhabited

namespace Grid

/-- Gives a pair its node. -/
def assign (grid : Grid) (first second node : NodeId) : Grid where
  pairs := grid.pairs.insert (first, second) node
  rows := grid.rows.insert first (((grid.rows.get? first).getD ∅).insert second node)

/-- The node of a pair. -/
def node? (grid : Grid) (first second : NodeId) : Option NodeId :=
  grid.pairs.get? (first, second)

/-- The node of a pair, or the failed key. -/
def node (grid : Grid) (first second : NodeId) : Except Failure NodeId :=
  match grid.node? first second with
  | some n => .ok n
  | none => .error (.missingPair first second)

/-- The row of a first node: its second nodes with the nodes of the pairs. -/
def row (grid : Grid) (first : NodeId) : Except Failure (Table NodeId NodeId) :=
  grid.rows.fetch first

/-- All pairs with their nodes, in the order in which the pairs were first assigned. -/
def items (grid : Grid) : List ((NodeId × NodeId) × NodeId) := grid.pairs.entries

/-- The number of pairs. -/
def size (grid : Grid) : Nat := grid.pairs.size

/-- Whether two grids give the same nodes to the same pairs. -/
def sameItems (grid other : Grid) : Bool := grid.pairs.sameEntries other.pairs

/-- A short description by the number of pairs. -/
def describe (grid : Grid) : String := "ProductNodeMap(" ++ toString grid.size ++ " pairs)"

/-- An assigned pair has the node it was given, and every other pair keeps its own. -/
theorem node?_assign (grid : Grid) (first second node u v : NodeId) :
    (grid.assign first second node).node? u v =
      if (first, second) = (u, v) then some node else grid.node? u v :=
  Table.get?_insert grid.pairs (first, second) (u, v) node

end Grid

end Multigraph
