import Multigraph.Graph.Incidence
import Multigraph.Product.Build

/-!
Drawings. What the graph products draw is put together from a few parts, each of which draws edges
from the node of a pair along the edges of one factor or of both. To draw an edge of a factor once
and not twice, a part follows it from its source only. The last part of the module has edge rules
that suit a grid of any kind.
-/
namespace Multigraph

namespace Drawing

/-- Draws an edge to each of the given pairs. -/
def drawTo (grid : Grid) (node : NodeId) (pairs : List (NodeId × NodeId)) : Action Graph Unit :=
  pairs.forM fun (v, w) => do discard (Graph.newEdge node (← Action.ofExcept (grid.node v w)))

/-- Draws edges from the node of a pair to the pairs that a function of both coordinates lists. -/
def along (targets : NodeId → NodeId → Except Failure (List (NodeId × NodeId))) : Drawing :=
  fun grid v w => do
    let node ← Action.ofExcept (grid.node v w)
    drawTo grid node (← Action.ofExcept (targets v w))

/-- Draws what one drawing does and then what another does. -/
def followedBy (first second : Drawing) : Drawing := fun grid v w => do
  first grid v w
  second grid v w

/-! ## Parts -/

/-- Edges of the second factor, within one copy of it. -/
def secondEdges (second : Graph) : Drawing := along fun v w => do
  return (← second.atNode Graph.successors w).map fun w' => (v, w')

/-- Edges of the first factor, within one copy of it. -/
def firstEdges (first : Graph) : Drawing := along fun v w => do
  return (← first.atNode Graph.successors v).map fun v' => (v', w)

/-- Edges between pairs that are adjacent in both factors. The edges of the first factor are
followed from both ends and those of the second from their source, so each pair of edges gives two
edges. -/
def bothEdges (first second : Graph) : Drawing := along fun v w => do
  let targets ← second.atNode Graph.successors w
  return (← first.atNode Graph.twins v).flatMap fun v' => targets.map fun w' => (v', w')

/-- Edges of the first factor, drawn to every node of the second. -/
def firstEdgesToAll (first second : Graph) : Drawing := along fun v _ => do
  let targets ← first.atNode Graph.successors v
  return second.nodes.flatMap fun w' => targets.map fun v' => (v', w')

/-- Edges of the second factor, drawn to every node of the first. -/
def secondEdgesToAll (first second : Graph) : Drawing := along fun _ w => do
  let targets ← second.atNode Graph.successors w
  return first.nodes.flatMap fun v' => targets.map fun w' => (v', w')

/-- Edges between pairs that are distinct and not adjacent in either factor. They are drawn to
later nodes of the second factor only, so that each is drawn once. -/
def apartEdges (first second : Graph) : Drawing := along fun v w => do
  let besideFirst ← first.atNode Graph.neighbours v
  let besideSecond ← second.atNode Graph.neighbours w
  let others := first.nodes.filter fun v' => v' ≠ v && v' ∉ besideFirst
  let laterOnes := (← second.atNode Graph.later w).filter fun w' => w' ∉ besideSecond
  return others.flatMap fun v' => laterOnes.map fun w' => (v', w')

/-- Edges of the first factor, drawn in one copy of it only. -/
def firstEdgesAt (root : NodeId) (first : Graph) : Drawing := fun grid v w =>
  if w = root then firstEdges first grid v w else pure ()

/-- Edges to all nodes of the row. -/
def wholeRow : Drawing := fun grid v w => do
  let node ← Action.ofExcept (grid.node v w)
  let row ← Action.ofExcept (grid.row v)
  row.entries.forM fun (_, other) => discard (Graph.newEdge node other)

end Drawing

/-! ## Rules for grids of any kind -/

namespace EdgeRule

/-- Draws nothing. -/
def nothing : EdgeRule := Drawing.rule fun _ _ _ => pure ()

/-- A loop at every node. -/
def loops : EdgeRule := Drawing.rule (.along fun v w => pure [(v, w)])

/-- An edge to the pair with its coordinates exchanged. -/
def transposed : EdgeRule := Drawing.rule (.along fun v w => pure [(w, v)])

/-- Edges to all nodes of the row. -/
def wholeRow : EdgeRule := Drawing.wholeRow.rule

end EdgeRule

end Multigraph
