import Multigraph.Graph.Incidence

/-!
Parallel edges. An edge is parallel when an edge made before it has the same ends, in the same
direction if the direction counts and in either otherwise. Removing the parallel edges therefore
keeps the first edge of every bundle. A graph is simple when it has neither loops nor parallel
edges, whatever their direction.
-/
namespace Multigraph

/-- The pair of ends by which edges are compared; without direction the lesser end goes first. -/
def Edge.bundle (directed : Bool) (e : Edge) : NodeId × NodeId :=
  if directed ∨ e.source ≤ e.target then (e.source, e.target) else (e.target, e.source)

namespace Graph

/-- The edges of a list whose bundle was seen before, in the list or ahead of it. -/
def repeated (directed : Bool) (seen : List (NodeId × NodeId)) : List Edge → List Edge
  | [] => []
  | e :: rest =>
    if e.bundle directed ∈ seen then e :: repeated directed seen rest
    else repeated directed (e.bundle directed :: seen) rest

/-- The parallel edges of a graph. -/
def parallelEdges (g : Graph) (directed : Bool) : List Edge := repeated directed [] g.edges

/-- The number of parallel edges. -/
def parallelCount (g : Graph) (directed : Bool) : Nat := (g.parallelEdges directed).length

/-- Whether no two edges are parallel. -/
def isParallelFree (g : Graph) (directed : Bool) : Bool := (g.parallelEdges directed).isEmpty

/-- Deletes the parallel edges one by one and answers how many they were. -/
def removeParallel (directed : Bool) : Action Graph Nat := do
  let doomed := (← get).parallelEdges directed
  doomed.forM fun e => deleteEdge e.id
  return doomed.length

/-- Whether some edge is a loop. -/
def hasLoops (g : Graph) : Bool := g.edges.any Edge.isLoop

/-- Whether the graph has no loops and no parallel edges in either direction. -/
def isSimple (g : Graph) : Bool := !g.hasLoops && g.isParallelFree false

end Graph

end Multigraph
