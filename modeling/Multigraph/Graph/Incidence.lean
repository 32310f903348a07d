import Multigraph.Graph.Edit

/-!
What a graph looks like from one of its nodes. Every edge has two incidences, one at its source
and one at its target, so a loop is incident twice to its node. All views follow the order in
which the edges, or the nodes, were made.
-/
namespace Multigraph

/-- An edge seen from one of its ends: the node at that end, the node at the other, and whether
the near end is the source. -/
structure Incidence where
  edge : EdgeId
  node : NodeId
  twin : NodeId
  atSource : Bool
  deriving DecidableEq

/-- The incidences of an edge at a node: none, one, or for a loop both, the source first. -/
def Edge.incidencesAt (e : Edge) (node : NodeId) : List Incidence :=
  (if e.source = node then [⟨e.id, node, e.target, true⟩] else []) ++
    (if e.target = node then [⟨e.id, node, e.source, false⟩] else [])

namespace Graph

/-- The edges at a node, each once. -/
def incidentEdges (g : Graph) (node : NodeId) : List Edge :=
  g.edges.filter fun e => e.touches node

/-- The incidences at a node. -/
def incidences (g : Graph) (node : NodeId) : List Incidence :=
  (g.incidentEdges node).flatMap fun e => e.incidencesAt node

/-- Whether an edge joins two nodes, in either direction. -/
def adjacent (g : Graph) (u v : NodeId) : Bool := g.edges.any fun e => e.joins u v

/-- The nodes adjacent to a node. -/
def neighbours (g : Graph) (node : NodeId) : List NodeId :=
  g.nodes.filter fun other => g.adjacent node other

/-- The number of incidences at a node: the edges leaving it and the edges reaching it. -/
def degree (g : Graph) (node : NodeId) : Nat :=
  g.edges.countP (fun e => e.source = node) + g.edges.countP (fun e => e.target = node)

/-- The nodes made after a node. -/
def later (g : Graph) (node : NodeId) : List NodeId :=
  g.nodes.filter fun other => node < other

/-- The ends of the edges that leave a node, one for each edge. -/
def successors (g : Graph) (node : NodeId) : List NodeId :=
  ((g.incidences node).filter fun i => i.atSource).map fun i => i.twin

/-- The far ends of the edges at a node, one for each incidence. -/
def twins (g : Graph) (node : NodeId) : List NodeId :=
  (g.incidences node).map fun i => i.twin

/-- The end of an edge that is not `node`, which is `node` itself for a loop. -/
def opposite (g : Graph) (edge : EdgeId) (node : NodeId) : Except Failure NodeId := do
  let e ← g.edge edge
  if node = e.source then return e.target
  else if node = e.target then return e.source
  else throw (.notAnEndpoint node edge)

/-- The first edge from `u` to `v`, or between them unless the direction counts. -/
def findEdge (g : Graph) (u v : NodeId) (directed : Bool) : Except Failure (Option EdgeId) := do
  g.requireNode u
  g.requireNode v
  return (g.edges.find? fun e => if directed then e.runs u v else e.joins u v).map Edge.id

/-- Whether two nodes are adjacent does not depend on their order. -/
theorem adjacent_comm (g : Graph) (u v : NodeId) : g.adjacent u v = g.adjacent v u := by
  simp only [adjacent, Edge.joins, Bool.or_comm]

/-- The incidences of an edge at a node are as many as the ends it has there. -/
theorem length_incidencesAt (e : Edge) (node : NodeId) :
    (e.incidencesAt node).length =
      (if e.source = node then 1 else 0) + (if e.target = node then 1 else 0) := by
  by_cases atSource : e.source = node <;> by_cases atTarget : e.target = node <;>
    simp [Edge.incidencesAt, atSource, atTarget]

/-- An edge that does not touch a node has no incidence there. -/
theorem incidencesAt_of_not_touches {e : Edge} {node : NodeId} (apart : e.touches node = false) :
    e.incidencesAt node = [] := by
  simp only [Edge.touches, Bool.or_eq_false_iff, decide_eq_false_iff_not] at apart
  simp [Edge.incidencesAt, apart.1, apart.2]

/-- The incidences at a node are those of all edges, not only of the edges at it. -/
theorem incidences_eq_flatMap (g : Graph) (node : NodeId) :
    g.incidences node = g.edges.flatMap fun e => e.incidencesAt node := by
  simp only [incidences, incidentEdges]
  induction g.edges with
  | nil => rfl
  | cons e rest ih =>
    cases touching : e.touches node with
    | true => simp [touching, ih]
    | false => simp [touching, ih, incidencesAt_of_not_touches touching]

/-- The degree of a node is the number of its incidences. -/
theorem length_incidences (g : Graph) (node : NodeId) :
    (g.incidences node).length = g.degree node := by
  rw [incidences_eq_flatMap]
  simp only [degree]
  induction g.edges with
  | nil => rfl
  | cons e rest ih =>
    simp only [List.flatMap_cons, List.length_append, length_incidencesAt, ih, List.countP_cons,
      decide_eq_true_eq]
    omega

end Graph

end Multigraph
