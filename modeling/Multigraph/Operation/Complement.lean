import Multigraph.Graph.Incidence
import Multigraph.Operation.Event

/-!
Complement. The graph is swept node by node. At each node the edges in scope are deleted, and the
node is then joined to every node in scope that none of them reached. The scope of a node follows
from the policy: its own loops count only if loops are allowed; without direction, only nodes that
are not earlier than it count, and edges count whatever their direction; with direction, all nodes
count, and edges count only at their source. Edges made during the sweep are left alone when it
meets them again; they are told by their handles, which are not below the counter that the sweep
started from.
-/
namespace Multigraph.Graph

/-- Whether a pair of nodes is exchanged while the first of them is swept. -/
def pairInScope (policy : ComplementPolicy) (n m : NodeId) : Bool :=
  (policy.directional || n ≤ m) && (policy.allowSelfLoops || n ≠ m)

/-- Whether an edge seen from a swept node is exchanged there. -/
def incidenceInScope (policy : ComplementPolicy) (i : Incidence) : Bool :=
  (!policy.directional || i.atSource) && pairInScope policy i.node i.twin

/-- Deletes an edge seen from a swept node if it is in scope, was there before the sweep and has not
gone yet. Answers the nodes reached by the edges deleted at the swept node so far. -/
def sweepIncidence (policy : ComplementPolicy) (fresh : EdgeId) (reached : List NodeId)
    (i : Incidence) : Action Graph (List NodeId) := do
  if incidenceInScope policy i && i.edge < fresh && (← get).hasEdge i.edge then
    deleteEdge i.edge
    return i.twin :: reached
  else
    return reached

/-- Joins the swept node to another unless it was reached. Answers how many edges were made. -/
def sweepPair (policy : ComplementPolicy) (reached : List NodeId) (n : NodeId) (created : Nat)
    (m : NodeId) : Action Graph Nat := do
  if pairInScope policy n m && m ∉ reached then
    discard (newEdge n m)
    return created + 1
  else
    return created

/-- Sweeps one node, counting the edges deleted and made. -/
def sweepNode (policy : ComplementPolicy) (fresh : EdgeId) (counts : Nat × Nat) (n : NodeId) :
    Action Graph (Nat × Nat) := do
  let incidences ← Action.query (Graph.atNode · Graph.incidences n)
  let reached ← incidences.foldlM (sweepIncidence policy fresh) []
  let created ← (← get).nodes.foldlM (sweepPair policy reached n) counts.2
  return (counts.1 + reached.length, created)

/-- Turns the graph into its complement. -/
def complement (policy : ComplementPolicy) : Action Graph Event := do
  let g ← get
  let (removed, created) ← g.nodes.foldlM (sweepNode policy g.nextEdge) (0, 0)
  return .complement policy removed created

end Multigraph.Graph
