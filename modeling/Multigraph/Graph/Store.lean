import Mathlib.Data.Finset.Sort
import Mathlib.Data.Set.Insert
import Multigraph.Graph.Incidence

/-!
A graph in its two stores. An adjacency structure has the nodes, and every edge as an arc with the
handle of the edge for its key; a table has the ends of every edge. What a graph looks like from a
node is read off the adjacency structure, what the ends of an edge are is looked up in the table,
and so every change has to be made to both. The graph that is meant is `Store.graph`.

The adjacency structure is not the graph's own. All that is known of it are its methods, which are
those of `Adjacency`, and what these promise, which is said by `LawfulAdjacency`.
-/
namespace Multigraph

/-- An arc: its source, its target and its key. -/
abbrev Arc := NodeId × NodeId × EdgeId

/-- The methods of a structure that has nodes, and arcs with keys between them. -/
class Adjacency (σ : Type) where
  empty : σ
  copy : σ → σ
  /-- The nodes in the order in which they were added. -/
  nodes : σ → List NodeId
  addNode : NodeId → Action σ Unit
  /-- Removes a node together with the arcs at it. -/
  removeNode : NodeId → Action σ Unit
  addArc : Arc → Action σ Unit
  removeArc : Arc → Action σ Unit
  clear : Action σ Unit
  /-- The keys of the arcs from one node to another. -/
  keys : σ → NodeId → NodeId → List EdgeId
  /-- The arcs that leave a node. -/
  leaving : σ → NodeId → List Arc
  /-- The arcs that reach a node. -/
  reaching : σ → NodeId → List Arc
  /-- The nodes to which arcs of a node lead. -/
  successors : σ → NodeId → List NodeId
  /-- The nodes from which arcs lead to a node. -/
  predecessors : σ → NodeId → List NodeId
  /-- The number of arcs at a node, loops counted twice. -/
  degree : σ → NodeId → Nat

namespace Adjacency

variable {σ : Type} [Adjacency σ]

/-- The arcs that are there. -/
def arcs (s : σ) : Set Arc := {arc | arc.2.2 ∈ keys s arc.1 arc.2.1}

/-- A method succeeds and leaves certain nodes and arcs. -/
def Leaves (method : Action σ Unit) (s : σ) (left : List NodeId) (arcsLeft : Set Arc) : Prop :=
  ∃ later, method s = .ok () later ∧ nodes later = left ∧ arcs later = arcsLeft

end Adjacency

open Adjacency in
/-- What the methods promise. Nothing is promised of adding what is there or between foreign nodes,
of removing what is not there, and of looking from a foreign node; nor is the order in which arcs
and adjacent nodes are listed. -/
class LawfulAdjacency (σ : Type) [Adjacency σ] : Prop where
  nodes_empty : nodes (empty : σ) = []
  arcs_empty : arcs (empty : σ) = ∅
  nodes_copy (s : σ) : nodes (copy s) = nodes s
  arcs_copy (s : σ) : arcs (copy s) = arcs s
  addNode_leaves (s : σ) (node : NodeId) : node ∉ nodes s →
    Leaves (addNode node) s (nodes s ++ [node]) (arcs s)
  removeNode_leaves (s : σ) (node : NodeId) : node ∈ nodes s →
    Leaves (removeNode node) s ((nodes s).filter fun other => other ≠ node)
      {arc ∈ arcs s | arc.1 ≠ node ∧ arc.2.1 ≠ node}
  addArc_leaves (s : σ) (arc : Arc) : arc.1 ∈ nodes s → arc.2.1 ∈ nodes s → arc ∉ arcs s →
    Leaves (addArc arc) s (nodes s) (insert arc (arcs s))
  removeArc_leaves (s : σ) (arc : Arc) : arc ∈ arcs s →
    Leaves (removeArc arc) s (nodes s) (arcs s \ {arc})
  clear_leaves (s : σ) : Leaves clear s [] ∅
  leaving_nodup (s : σ) (u : NodeId) : u ∈ nodes s → (leaving s u).Nodup
  mem_leaving (s : σ) (u : NodeId) (arc : Arc) : u ∈ nodes s →
    (arc ∈ leaving s u ↔ arc ∈ arcs s ∧ arc.1 = u)
  reaching_nodup (s : σ) (u : NodeId) : u ∈ nodes s → (reaching s u).Nodup
  mem_reaching (s : σ) (u : NodeId) (arc : Arc) : u ∈ nodes s →
    (arc ∈ reaching s u ↔ arc ∈ arcs s ∧ arc.2.1 = u)
  mem_successors (s : σ) (u v : NodeId) : u ∈ nodes s →
    (v ∈ successors s u ↔ ∃ key, (u, v, key) ∈ arcs s)
  mem_predecessors (s : σ) (u v : NodeId) : u ∈ nodes s →
    (v ∈ predecessors s u ↔ ∃ key, (v, u, key) ∈ arcs s)
  degree_eq (s : σ) (u : NodeId) : u ∈ nodes s →
    degree s u = (leaving s u).length + (reaching s u).length

/-- A graph in its two stores, with the next handles. -/
structure Store (σ : Type) where
  adjacency : σ
  ends : Table EdgeId (NodeId × NodeId)
  nextNode : NodeId
  nextEdge : EdgeId

namespace Store

variable {σ α : Type} [Adjacency σ]

/-- The edge that an entry of the table tells of. -/
def edgeOf (entry : EdgeId × NodeId × NodeId) : Edge := ⟨entry.1, entry.2.1, entry.2.2⟩

/-- The graph that is meant: the nodes are those of the adjacency structure, the edges those of the
table. -/
def graph (store : Store σ) : Graph where
  nodes := Adjacency.nodes store.adjacency
  edges := store.ends.entries.map edgeOf
  nextNode := store.nextNode
  nextEdge := store.nextEdge

def empty : Store σ := ⟨Adjacency.empty, ∅, 0, 0⟩

/-- An independent copy with the same handles. -/
def copy (store : Store σ) : Store σ := { store with adjacency := Adjacency.copy store.adjacency }

/-- Refuses a handle that is no node. -/
def requireNode (store : Store σ) (node : NodeId) : Except Failure Unit :=
  if node ∈ Adjacency.nodes store.adjacency then .ok () else .error (.missingNode node)

/-- The source and the target of an edge. -/
def endpoints (store : Store σ) (edge : EdgeId) : Except Failure (NodeId × NodeId) :=
  match store.ends.get? edge with
  | some ends => .ok ends
  | none => .error (.missingEdge edge)

/-- The handles of the edges at a node, each once and in increasing order. -/
def incidentEdges (store : Store σ) (node : NodeId) : Except Failure (List EdgeId) := do
  store.requireNode node
  let leaving := (Adjacency.leaving store.adjacency node).map fun arc => arc.2.2
  let reaching := (Adjacency.reaching store.adjacency node).map fun arc => arc.2.2
  return (leaving.toFinset ∪ reaching.toFinset).sort (· ≤ ·)

/-! ## Changes -/

/-- Calls a method of the adjacency structure. -/
def onAdjacency (method : Action σ α) : Action (Store σ) α :=
  Action.within adjacency (fun s store => { store with adjacency := s }) method

/-- Removes an edge from the table. -/
def dropEntry (edge : EdgeId) : Action (Store σ) Unit := do
  let _ ← Action.query fun store => store.ends.fetch edge
  modify fun store => { store with ends := store.ends.erase edge }

/-- Makes a node and answers its handle. -/
def newNode : Action (Store σ) NodeId := do
  let node := (← get).nextNode
  modify fun store => { store with nextNode := node + 1 }
  onAdjacency (Adjacency.addNode node)
  return node

/-- Makes an edge between two nodes and answers its handle. -/
def newEdge (source target : NodeId) : Action (Store σ) EdgeId := do
  Action.query (requireNode · source)
  Action.query (requireNode · target)
  let edge := (← get).nextEdge
  modify fun store => { store with nextEdge := edge + 1 }
  onAdjacency (Adjacency.addArc (source, target, edge))
  modify fun store => { store with ends := store.ends.insert edge (source, target) }
  return edge

/-- Deletes an edge. -/
def deleteEdge (edge : EdgeId) : Action (Store σ) Unit := do
  let ends ← Action.query (endpoints · edge)
  onAdjacency (Adjacency.removeArc (ends.1, ends.2, edge))
  dropEntry edge

/-- Deletes a node together with the edges at it. -/
def deleteNode (node : NodeId) : Action (Store σ) Unit := do
  let edges ← Action.query (incidentEdges · node)
  edges.forM dropEntry
  onAdjacency (Adjacency.removeNode node)

/-- Deletes all nodes and edges. -/
def clear : Action (Store σ) Unit := do
  onAdjacency Adjacency.clear
  modify fun store => { store with ends := ∅ }

/-- Makes a node for a node of another graph. -/
def copyNode (node : NodeId) : Action (Store σ) (NodeId × NodeId) := do
  return (node, ← newNode)

/-- Makes an edge for an edge of another graph, between the images of its ends. -/
def copyEdge (other : Store σ) (image : Table NodeId NodeId) (edge : EdgeId) :
    Action (Store σ) (EdgeId × EdgeId) := do
  let ends ← Action.ofExcept (other.endpoints edge)
  let source ← Action.ofExcept (image.fetch ends.1)
  let target ← Action.ofExcept (image.fetch ends.2)
  return (edge, ← newEdge source target)

/-- Copies another graph into this one. -/
def insert (other : Store σ) : Action (Store σ) Graph.Renaming := do
  let nodes := Table.ofList (← (Adjacency.nodes other.adjacency).mapM copyNode)
  let edges := Table.ofList (← other.ends.keys.mapM (copyEdge other nodes))
  return ⟨nodes, edges⟩

/-- What a program can make of graphs: it starts with empty ones and changes them, failed changes
included, inserts them into each other and copies them. -/
inductive Reachable : Store σ → Prop where
  | empty : Reachable empty
  | newNode {store : Store σ} (reached : Reachable store) : Reachable (newNode.after store)
  | newEdge {store : Store σ} (reached : Reachable store) (source target : NodeId) :
      Reachable ((newEdge source target).after store)
  | deleteEdge {store : Store σ} (reached : Reachable store) (edge : EdgeId) :
      Reachable ((deleteEdge edge).after store)
  | deleteNode {store : Store σ} (reached : Reachable store) (node : NodeId) :
      Reachable ((deleteNode node).after store)
  | clear {store : Store σ} (reached : Reachable store) : Reachable (clear.after store)
  | insert {store other : Store σ} (reached : Reachable store) (known : Reachable other) :
      Reachable ((insert other).after store)
  | copy {store : Store σ} (reached : Reachable store) : Reachable store.copy

/-! ## Views -/

/-- The incidences of an edge at a node, by the ends that the table has for it. -/
def incidencesOf (store : Store σ) (node : NodeId) (edge : EdgeId) :
    Except Failure (List Incidence) := do
  let ends ← store.ends.fetch edge
  return (edgeOf (edge, ends)).incidencesAt node

/-- The incidences at a node. -/
def incidences (store : Store σ) (node : NodeId) : Except Failure (List Incidence) := do
  let edges ← store.incidentEdges node
  let entries ← edges.mapM (store.incidencesOf node)
  return entries.flatten

/-- The nodes adjacent to a node. -/
def neighbours (store : Store σ) (node : NodeId) : Except Failure (Finset NodeId) := do
  store.requireNode node
  return (Adjacency.successors store.adjacency node).toFinset ∪
    (Adjacency.predecessors store.adjacency node).toFinset

/-- The number of incidences at a node. -/
def degree (store : Store σ) (node : NodeId) : Except Failure Nat := do
  store.requireNode node
  return Adjacency.degree store.adjacency node

/-- The nodes made after a node. -/
def later (store : Store σ) (node : NodeId) : Except Failure (List NodeId) := do
  store.requireNode node
  return (Adjacency.nodes store.adjacency).filter fun other => node < other

/-- The end of an edge that is not `node`, which is `node` itself for a loop. -/
def opposite (store : Store σ) (edge : EdgeId) (node : NodeId) : Except Failure NodeId := do
  let ends ← store.endpoints edge
  if node = ends.1 then return ends.2
  else if node = ends.2 then return ends.1
  else throw (.notAnEndpoint node edge)

/-- The first edge from `u` to `v`, or between them unless the direction counts. -/
def findEdge (store : Store σ) (u v : NodeId) (directed : Bool) :
    Except Failure (Option EdgeId) := do
  store.requireNode u
  store.requireNode v
  let onward := Adjacency.keys store.adjacency u v
  let back := if directed then [] else Adjacency.keys store.adjacency v u
  return (onward ++ back).min?

end Store

end Multigraph
