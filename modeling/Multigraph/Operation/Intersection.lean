import Multigraph.Correspondence
import Multigraph.Graph.Incidence
import Multigraph.Operation.Event
import Multigraph.Operation.Operand

/-!
Intersection. The first graph keeps the nodes that correspond to a node of the second graph, and
of its edges those whose ends correspond to adjacent nodes. The correspondence is checked before
anything changes; then the nodes without a correspondent go, and then every remaining node is
visited and the edges at it are examined.
-/
namespace Multigraph.Graph

/-- Examines an edge at a node: it goes unless its other end corresponds to one of the given
nodes. Answers how many edges have gone. -/
def trimEdge (images : Table NodeId NodeId) (node : NodeId) (beside : List NodeId)
    (dropped : Nat) (e : Edge) : Action Graph Nat := do
  let twin ← Action.query (Graph.opposite · e.id node)
  let image ← Action.ofExcept (images.fetch twin)
  if image ∈ beside then
    return dropped
  else
    deleteEdge e.id
    return dropped + 1

/-- Examines the edges at a node. -/
def trimNode (second : Operand) (images : Table NodeId NodeId) (dropped : Nat) (node : NodeId) :
    Action Graph Nat := do
  let image ← Action.ofExcept (images.fetch node)
  let beside ← Action.ofExcept ((← second.read).atNode Graph.neighbours image)
  let edges ← Action.query (Graph.atNode · Graph.incidentEdges node)
  edges.foldlM (trimEdge images node beside) dropped

/-- Reduces the graph to what it has in common with the second one under a correspondence. -/
def intersection (second : Operand) (correspondence : Assignment) : Action Graph Event := do
  let first ← get
  let images ← Action.ofExcept
    (correspondence.resolve first (second.view first) .correspondsOutside)
  let lost := correspondence.unsetNodes first
  lost.forM deleteNode
  let dropped ← (← get).nodes.foldlM (trimNode second images) 0
  let common ← get
  return .intersection lost.length dropped common.nodeCount common.edgeCount

end Multigraph.Graph
