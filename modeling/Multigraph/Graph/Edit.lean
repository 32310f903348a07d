import Multigraph.Graph.Basic

/-!
Changing a graph. Each change has a total function that says what becomes of the graph, and an
action that checks its handles first and refuses a foreign one without any change. A refused edge
uses up no handle, and clearing a graph leaves its counters running.
-/
namespace Multigraph.Graph

/-! ## What each change makes of a graph -/

/-- The graph with a new last node. -/
def withNode (g : Graph) : Graph :=
  { g with nodes := g.nodes ++ [g.nextNode], nextNode := g.nextNode + 1 }

/-- The graph with a new last edge. -/
def withEdge (g : Graph) (source target : NodeId) : Graph :=
  { g with edges := g.edges ++ [⟨g.nextEdge, source, target⟩], nextEdge := g.nextEdge + 1 }

/-- The graph without one edge. -/
def withoutEdge (g : Graph) (edge : EdgeId) : Graph :=
  { g with edges := g.edges.filter fun e => e.id ≠ edge }

/-- The graph without one node and the edges at it. -/
def withoutNode (g : Graph) (node : NodeId) : Graph :=
  { g with
    nodes := g.nodes.filter fun n => n ≠ node
    edges := g.edges.filter fun e => !e.touches node }

/-- The graph without its nodes and edges. -/
def cleared (g : Graph) : Graph := { g with nodes := [], edges := [] }

/-! ## The actions -/

/-- Makes a node and answers its handle. -/
def newNode : Action Graph NodeId := modifyGet fun g => (g.nextNode, g.withNode)

/-- Makes an edge between two nodes and answers its handle. -/
def newEdge (source target : NodeId) : Action Graph EdgeId := do
  Action.query (requireNode · source)
  Action.query (requireNode · target)
  modifyGet fun g => (g.nextEdge, g.withEdge source target)

/-- Deletes an edge. -/
def deleteEdge (edge : EdgeId) : Action Graph Unit := do
  let e ← Action.query (Graph.edge · edge)
  modify (withoutEdge · e.id)

/-- Deletes a node together with the edges at it. -/
def deleteNode (node : NodeId) : Action Graph Unit := do
  Action.query (requireNode · node)
  modify (withoutNode · node)

/-- Deletes all nodes and edges. -/
def clear : Action Graph Unit := modify cleared

/-- Where the nodes and edges of an inserted graph went: each old handle with the new one. -/
structure Renaming where
  nodes : Table NodeId NodeId
  edges : Table EdgeId EdgeId

/-- Makes a node for a node of another graph. -/
def copyNode (node : NodeId) : Action Graph (NodeId × NodeId) := do
  return (node, ← newNode)

/-- Makes an edge for an edge of another graph, between the images of its ends. -/
def copyEdge (image : Table NodeId NodeId) (e : Edge) : Action Graph (EdgeId × EdgeId) := do
  let source ← Action.ofExcept (image.fetch e.source)
  let target ← Action.ofExcept (image.fetch e.target)
  return (e.id, ← newEdge source target)

/-- Copies another graph into this one, nodes first, both in the order of the other graph. The
other graph is a value: when a graph is inserted into itself, what is copied is the graph as it
was before. -/
def insert (other : Graph) : Action Graph Renaming := do
  let nodes := Table.ofList (← other.nodes.mapM copyNode)
  let edges := Table.ofList (← other.edges.mapM (copyEdge nodes))
  return ⟨nodes, edges⟩

/-! ## When the actions succeed -/

variable {g : Graph}

theorem newNode_run : newNode g = .ok g.nextNode g.withNode := rfl

/-- An edge is made when both of its ends are nodes. -/
theorem newEdge_run {source target : NodeId} (held : source ∈ g.nodes)
    (reached : target ∈ g.nodes) :
    newEdge source target g = .ok g.nextEdge (g.withEdge source target) :=
  .trans (Action.bind_of_ok (Action.query_of_ok (requireNode_of_mem held)))
    (Action.bind_of_ok (Action.query_of_ok (requireNode_of_mem reached)))

/-- A foreign source is refused, and the graph stays as it is. -/
theorem newEdge_foreign_source {source target : NodeId} (foreign : source ∉ g.nodes) :
    newEdge source target g = .error (.missingNode source) g :=
  Action.bind_of_error (Action.query_of_error (requireNode_of_not_mem foreign))

/-- A foreign target is refused, and the graph stays as it is. -/
theorem newEdge_foreign_target {source target : NodeId} (held : source ∈ g.nodes)
    (foreign : target ∉ g.nodes) :
    newEdge source target g = .error (.missingNode target) g :=
  .trans (Action.bind_of_ok (Action.query_of_ok (requireNode_of_mem held)))
    (Action.bind_of_error (Action.query_of_error (requireNode_of_not_mem foreign)))

/-- A node of the graph is deleted with the edges at it. -/
theorem deleteNode_run {node : NodeId} (held : node ∈ g.nodes) :
    deleteNode node g = .ok () (g.withoutNode node) :=
  Action.bind_of_ok (Action.query_of_ok (requireNode_of_mem held))

/-- A foreign node is refused, and the graph stays as it is. -/
theorem deleteNode_foreign {node : NodeId} (foreign : node ∉ g.nodes) :
    deleteNode node g = .error (.missingNode node) g :=
  Action.bind_of_error (Action.query_of_error (requireNode_of_not_mem foreign))

/-- An edge of the graph is deleted. -/
theorem deleteEdge_run {edge : EdgeId} {e : Edge} (held : g.edge? edge = some e) :
    deleteEdge edge g = .ok () (g.withoutEdge e.id) :=
  Action.bind_of_ok (Action.query_of_ok (by simp only [Graph.edge, held]))

/-! ## Building a graph -/

/-- Makes a number of nodes and then edges between given ends. -/
def grow (count : Nat) (ends : List (NodeId × NodeId)) : Action Graph Unit := do
  (List.range count).forM fun _ => discard newNode
  ends.forM fun (source, target) => discard (newEdge source target)

end Multigraph.Graph
