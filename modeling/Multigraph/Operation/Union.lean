import Multigraph.Correspondence
import Multigraph.Graph.Parallel
import Multigraph.Operation.Event

/-!
Union. The second graph is drawn into the first: a node of the second graph that is identified
with a node of the first becomes that node, every other one becomes a new node, and each edge of
the second graph becomes a new edge between the images of its ends. The identifications are
checked before anything changes. When a graph is united with itself, what is drawn in is the
graph as it was before.
-/
namespace Multigraph.Graph

/-- Makes a new node for a node that has no image yet. -/
def addImage (images : Table NodeId NodeId) (node : NodeId) :
    Action Graph (Table NodeId NodeId) := do
  return images.insert node (← newNode)

/-- Draws an edge between the images of its ends. -/
def drawEdge (images : Table NodeId NodeId) (e : Edge) : Action Graph Unit := do
  let source ← Action.ofExcept (images.fetch e.source)
  let target ← Action.ofExcept (images.fetch e.target)
  discard (newEdge source target)

/-- Removes the parallel edges that a policy does not allow. -/
def applyPolicy (policy : UnionPolicy) : Action Graph Nat :=
  if policy.parallelFree then removeParallel policy.directed else pure 0

/-- Unites the second graph into this one. Answers the image of every node of the second graph. -/
def union (second : Graph) (preset : Assignment) (policy : UnionPolicy) :
    Action Graph (Table NodeId NodeId × Event) := do
  let first ← get
  let identified ← Action.ofExcept (preset.resolve second first .identifiedOutside)
  let images ← (preset.unsetNodes second).foldlM addImage identified
  second.edges.forM (drawEdge images)
  let removed ← applyPolicy policy
  let united ← get
  return (images, .union identified.size removed united.nodeCount united.edgeCount)

/-- Copies the second graph into this one without identifying any nodes. Answers the image of
every node of the second graph. -/
def disjointUnion (second : Graph) : Action Graph (Table NodeId NodeId) := do
  return (← insert second).nodes

end Multigraph.Graph
