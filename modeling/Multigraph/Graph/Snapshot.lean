import Multigraph.Graph.Basic

/-!
Snapshots. A snapshot shows the nodes and edges of a graph as they were when it was taken and
cannot be changed.
-/
namespace Multigraph

/-- A graph as it was at some moment. -/
structure Snapshot where
  nodes : List NodeId
  edges : List Edge
  deriving DecidableEq

namespace Snapshot

/-- The snapshot of a graph. -/
def take (g : Graph) : Snapshot := ⟨g.nodes, g.edges⟩

/-- Refuses the node: a snapshot is frozen. -/
def addNode (_ : Snapshot) (_ : NodeId) : Except Failure Snapshot := .error .frozen

end Snapshot

end Multigraph
