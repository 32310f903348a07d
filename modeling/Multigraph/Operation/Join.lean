import Multigraph.Correspondence
import Multigraph.Graph.Parallel
import Multigraph.Operation.Event
import Multigraph.Operation.Operand

/-!
Join. The second graph is copied into the first, and every old node of the first graph is joined
to every node of the second. A node of the second graph may be identified with one of the first:
its copy is then absorbed, that is, its edges are drawn again at the node it is identified with
and the copy goes. Last, parallel edges are removed without regard to direction. The
identifications are checked before anything changes.

When a graph is joined with itself, the nodes of the second graph are listed after the copies were
made, so the copies are listed too; a copy has no copy of its own, and asking for it fails.
-/
namespace Multigraph.Graph

/-- Puts one node in the place of another. -/
def redirect (old new node : NodeId) : NodeId := if node = old then new else node

/-- Draws an edge of an absorbed node again at the node that absorbs it. -/
def redrawEdge (old new : NodeId) (e : Edge) : Action Graph Unit :=
  discard (newEdge (redirect old new e.source) (redirect old new e.target))

/-- Lets one node absorb another with all its edges. -/
def absorb (old new : NodeId) : Action Graph Unit := do
  let edges ← Action.query (Graph.atNode · Graph.incidentEdges old)
  edges.forM (redrawEdge old new)
  deleteNode old

/-- Absorbs the copy of a node of the second graph if the node is identified. Answers where the
nodes of the second graph are now. -/
def settle (second : Operand) (identified : Table NodeId NodeId) (images : Table NodeId NodeId)
    (node : NodeId) : Action Graph (Table NodeId NodeId) := do
  Action.ofExcept (Assignment.requireKey (← second.read) node)
  match identified.get? node with
  | none => return images
  | some target =>
    absorb (← Action.ofExcept (images.fetch node)) target
    return images.insert node target

/-- Joins an old node of the first graph to a node of the second, unless they are one. -/
def crossEdge (image node : NodeId) : Action Graph Unit :=
  if node = image then pure () else discard (newEdge node image)

/-- Joins all old nodes of the first graph to a node of the second. -/
def crossEdges (old : List NodeId) (images : Table NodeId NodeId) (node : NodeId) :
    Action Graph Unit := do
  let image ← Action.ofExcept (images.fetch node)
  old.forM (crossEdge image)

/-- Joins the second graph to this one. Answers where the nodes of the second graph are now. -/
def join (second : Operand) (preset : Assignment) :
    Action Graph (Table NodeId NodeId × Event) := do
  let first ← get
  let identified ← Action.ofExcept
    (preset.resolve (second.view first) first .identifiedOutside)
  let copies := (← insert (second.view first)).nodes
  let images ← (← second.read).nodes.foldlM (settle second identified) copies
  (← second.read).nodes.forM (crossEdges first.nodes images)
  let removed ← removeParallel false
  let joined ← get
  return (images, .join identified.size removed joined.nodeCount joined.edgeCount)

end Multigraph.Graph
