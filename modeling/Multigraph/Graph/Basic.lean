import Multigraph.Action

/-!
Directed multigraphs with stable handles. A graph lists its nodes and its edges in the order in
which they were made. Handles are numbers given out by the graph itself, one counter for the nodes
and one for the edges; the counters only grow, so a handle that has left the graph is never given
out again, and comparing two handles compares the times at which they were made. Loops and
parallel edges are allowed.

`Graph.WellFormed` is what every graph made by the library satisfies: handles are listed in
increasing order and lie below their counter, and both ends of every edge are nodes.
-/
namespace Multigraph

abbrev NodeId := Int

abbrev EdgeId := Int

/-- A directed edge with its handle. -/
structure Edge where
  id : EdgeId
  source : NodeId
  target : NodeId
  deriving DecidableEq

namespace Edge

/-- Whether the edge runs from `u` to `v`. -/
def runs (e : Edge) (u v : NodeId) : Bool := e.source = u && e.target = v

/-- Whether the edge joins `u` and `v`, in either direction. -/
def joins (e : Edge) (u v : NodeId) : Bool := e.runs u v || e.runs v u

/-- Whether `node` is an end of the edge. -/
def touches (e : Edge) (node : NodeId) : Bool := e.source = node || e.target = node

def isLoop (e : Edge) : Bool := e.source = e.target

end Edge

/-- A directed multigraph: nodes and edges in the order they were made, and the next handles. -/
structure Graph where
  nodes : List NodeId := []
  edges : List Edge := []
  nextNode : NodeId := 0
  nextEdge : EdgeId := 0
  deriving DecidableEq, Inhabited

namespace Graph

/-- Handles are increasing and below their counters, and edges end at nodes. -/
structure WellFormed (g : Graph) : Prop where
  nodes_increasing : g.nodes.Pairwise (· < ·)
  nodes_below : ∀ node ∈ g.nodes, 0 ≤ node ∧ node < g.nextNode
  edges_increasing : g.edges.Pairwise fun e f => e.id < f.id
  edges_below : ∀ e ∈ g.edges, 0 ≤ e.id ∧ e.id < g.nextEdge
  ends_mem : ∀ e ∈ g.edges, e.source ∈ g.nodes ∧ e.target ∈ g.nodes
  counters_nonneg : 0 ≤ g.nextNode ∧ 0 ≤ g.nextEdge

/-- The empty graph that has never given out a handle. -/
theorem wellFormed_empty : WellFormed {} where
  nodes_increasing := .nil
  nodes_below := by simp
  edges_increasing := .nil
  edges_below := by simp
  ends_mem := by simp
  counters_nonneg := ⟨Int.le_refl 0, Int.le_refl 0⟩

def nodeCount (g : Graph) : Nat := g.nodes.length

def edgeCount (g : Graph) : Nat := g.edges.length

def hasNode (g : Graph) (node : NodeId) : Bool := g.nodes.contains node

def hasEdge (g : Graph) (edge : EdgeId) : Bool := g.edges.any fun e => e.id = edge

/-- The node made first among those still there. -/
def firstNode? (g : Graph) : Option NodeId := g.nodes.head?

theorem hasNode_iff {g : Graph} {node : NodeId} : g.hasNode node = true ↔ node ∈ g.nodes := by
  simp [hasNode]

/-- The edge with the given handle. -/
def edge? (g : Graph) (edge : EdgeId) : Option Edge := g.edges.find? fun e => e.id = edge

/-- The edge with the given handle, or the failure to find it. -/
def edge (g : Graph) (id : EdgeId) : Except Failure Edge :=
  match g.edge? id with
  | some e => .ok e
  | none => .error (.missingEdge id)

/-- Refuses a handle that is no node of the graph. -/
def requireNode (g : Graph) (node : NodeId) : Except Failure Unit :=
  if node ∈ g.nodes then .ok () else .error (.missingNode node)

theorem requireNode_of_mem {g : Graph} {node : NodeId} (held : node ∈ g.nodes) :
    g.requireNode node = .ok () := if_pos held

theorem requireNode_of_not_mem {g : Graph} {node : NodeId} (foreign : node ∉ g.nodes) :
    g.requireNode node = .error (.missingNode node) := if_neg foreign

/-- A view of the graph at one of its nodes; at any other handle there is none. -/
def atNode {α : Type} (g : Graph) (view : Graph → NodeId → α) (node : NodeId) :
    Except Failure α := do
  g.requireNode node
  return view g node

/-- A short description by the counts. -/
def describe (g : Graph) : String :=
  "Graph(nodes=" ++ toString g.nodeCount ++ ", edges=" ++ toString g.edgeCount ++ ")"

end Graph

end Multigraph
