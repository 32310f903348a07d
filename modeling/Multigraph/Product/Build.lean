import Multigraph.Operation.Event
import Multigraph.Operation.Operand
import Multigraph.Product.Grid

/-!
Building a product. Every product clears its destination, makes one node for each pair of nodes of
the factors, and then calls an edge rule once for each pair. Pairs are taken row by row, in the
order of the nodes of the factors, both times; so the order of the pairs decides the handles of
the nodes and the order of the edges. Rules are called only when the grid is complete.

An edge rule may have a memory, which its calls share. It outlasts a call that fails, as what has
been drawn until then does.

A factor may be the destination itself. It has then been cleared when its nodes are listed, so the
grid has no pairs.
-/
namespace Multigraph

/-- What an edge rule does when it is called for a pair: it draws edges that start at the node of
the pair, which it finds in the grid, and it may use a memory that its calls share. -/
abbrev EdgeCall (μ : Type) := Grid → NodeId → NodeId → Action (Graph × μ) Unit

/-- An edge rule: its calls, and the memory that the first of them finds. -/
structure EdgeRule where
  Memory : Type
  memory : Memory
  call : EdgeCall Memory

/-- The calls of a rule that also writes down the pairs for which it is called. -/
def EdgeCall.recorded {μ : Type} (call : EdgeCall μ) : EdgeCall (μ × List (NodeId × NodeId)) :=
  fun grid v w => do
    modify fun state => (state.1, state.2.1, state.2.2 ++ [(v, w)])
    Action.within (fun state => (state.1, state.2.1))
      (fun reached state => (reached.1, reached.2, state.2.2)) (call grid v w)

/-- A drawing is what a rule without a memory does when it is called for a pair. -/
abbrev Drawing := Grid → NodeId → NodeId → Action Graph Unit

/-- Drawing leaves a memory as it is. -/
def Drawing.call {μ : Type} (drawing : Drawing) : EdgeCall μ := fun grid v w =>
  Action.within Prod.fst (fun g state => (g, state.2)) (drawing grid v w)

/-- A drawing as an edge rule. -/
def Drawing.rule (drawing : Drawing) : EdgeRule := ⟨Unit, (), drawing.call⟩

/-- What a product is built into, the destination and the grid, and what its edge rule remembers. -/
structure Build (μ : Type) where
  graph : Graph
  grid : Grid
  memory : μ

namespace Build

variable {α μ : Type}

/-- The pairs of two lists, row by row. -/
def pairsOf (first second : List NodeId) : List (NodeId × NodeId) :=
  first.flatMap fun v => second.map fun w => (v, w)

/-- Runs an action on the destination. -/
def onGraph (action : Action Graph α) : Action (Build μ) α :=
  Action.within graph (fun g build => { build with graph := g }) action

/-- Runs an action on the destination and the memory of the edge rule. -/
def onCall (action : Action (Graph × μ) α) : Action (Build μ) α :=
  Action.within (fun build => (build.graph, build.memory))
    (fun state build => { build with graph := state.1, memory := state.2 }) action

/-- The build with an empty destination and an empty grid. -/
def cleared (build : Build μ) : Build μ := { build with graph := build.graph.cleared, grid := {} }

/-- Makes the node of a pair. -/
def placePair (pair : NodeId × NodeId) : Action (Build μ) Unit := do
  let node ← onGraph Graph.newNode
  modify fun build => { build with grid := build.grid.assign pair.1 pair.2 node }

/-- Calls the edge rule for a pair. -/
def visitPair (call : EdgeCall μ) (pair : NodeId × NodeId) : Action (Build μ) Unit := do
  let grid := (← get).grid
  onCall (call grid pair.1 pair.2)

/-- Builds the product of two factors under the edge rule that suits them. -/
def run (first second : Operand) (call : Graph → Graph → EdgeCall μ) : Action (Build μ) Event := do
  modify cleared
  let destination := (← get).graph
  let first := first.view destination
  let second := second.view destination
  let pairs := pairsOf first.nodes second.nodes
  pairs.forM placePair
  pairs.forM (visitPair (call first second))
  let product := (← get).graph
  return .product product.nodeCount product.edgeCount

end Build

end Multigraph
