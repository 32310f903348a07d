import Mathlib.Data.List.ProdSigma
import Multigraph.Product.Build
import Multigraph.Proofs.Graph.Insert

/-!
How a product is built. First the pairs of the factors get consecutive handles in their order, so
the node of a pair is told by `handleOf` (`placePairs_run`, `node?_filled`). Then the edge rule
draws from the nodes of the pairs, one after the other (`visitPairs_run`). Together they say what
a build under a rule that draws leaves (`run_of_reaches`).
-/
namespace Multigraph

open Multigraph.Action Multigraph.Graph

/-- A drawing that draws from the node of every pair to the nodes of the pairs that a function lists,
whichever nodes the grid gives to the pairs. -/
structure Drawing.Reaches (drawing : Drawing) (pairs : List (NodeId × NodeId))
    (targets : NodeId × NodeId → List (NodeId × NodeId)) : Prop where
  inside : ∀ pair ∈ pairs, ∀ target ∈ targets pair, target ∈ pairs
  draws : ∀ (grid : Grid) (place : NodeId × NodeId → NodeId) (nodes : List NodeId),
    (∀ pair ∈ pairs, grid.node? pair.1 pair.2 = some (place pair) ∧ place pair ∈ nodes) →
      ∀ pair ∈ pairs, Draws nodes (drawing grid pair.1 pair.2) ()
        ((targets pair).map fun target => (place pair, place target))

/-- A call for a pair. -/
def EdgeCall.at {μ : Type} (call : EdgeCall μ) (grid : Grid) (pair : NodeId × NodeId) :
    Action (Graph × μ) Unit := call grid pair.1 pair.2

/-- Drawing for several pairs leaves the memory as it is. -/
theorem Drawing.calls_of_ok {μ : Type} {drawing : Drawing} {grid : Grid}
    {pairs : List (NodeId × NodeId)} {g final : Graph} (memory : μ)
    (drawn : pairs.forM (fun pair => drawing grid pair.1 pair.2) g = .ok () final) :
    pairs.forM (drawing.call.at grid) (g, memory) = .ok () (final, memory) := by
  induction pairs generalizing g with
  | nil =>
    cases drawn
    rfl
  | cons pair rest ih =>
    obtain ⟨_, reached, here, onward⟩ := of_bind_ok drawn
    have called : within Prod.fst (fun h state => (h, state.2)) (drawing grid pair.1 pair.2)
        (g, memory) = .ok () (reached, memory) := within_of_ok here
    exact (bind_of_ok called).trans (ih onward)

namespace Build

variable {μ : Type}

/-! ## The pairs of two lists -/

theorem mem_pairsOf {first second : List NodeId} {pair : NodeId × NodeId} :
    pair ∈ pairsOf first second ↔ pair.1 ∈ first ∧ pair.2 ∈ second := List.mem_product

theorem nodup_pairsOf {first second : List NodeId} (rows : first.Nodup) (columns : second.Nodup) :
    (pairsOf first second).Nodup := rows.product columns

theorem length_pairsOf (first second : List NodeId) :
    (pairsOf first second).length = first.length * second.length := List.length_product first second

/-! ## Placing the pairs -/

/-- The grid with more pairs assigned, one after the other. -/
def filled (grid : Grid) (entries : List ((NodeId × NodeId) × NodeId)) : Grid :=
  entries.foldl (fun grid entry => grid.assign entry.1.1 entry.1.2 entry.2) grid

theorem pairs_filled (grid : Grid) (entries : List ((NodeId × NodeId) × NodeId)) :
    (filled grid entries).pairs = grid.pairs.insertAll entries := by
  induction entries generalizing grid with
  | nil => rfl
  | cons entry rest ih => exact ih (grid.assign entry.1.1 entry.1.2 entry.2)

variable {build : Build μ}

theorem placePair_run (pair : NodeId × NodeId) :
    placePair pair build = .ok () { build with
      graph := build.graph.withNode
      grid := build.grid.assign pair.1 pair.2 build.graph.nextNode } := rfl

/-- Placing pairs gives them consecutive handles in their order. -/
theorem placePairs_run (pairs : List (NodeId × NodeId)) :
    pairs.forM placePair build = .ok () { build with
      graph := build.graph.withNodes pairs.length
      grid := filled build.grid (pairs.zip (handlesFrom build.graph.nextNode pairs.length)) } := by
  induction pairs generalizing build with
  | nil =>
    rw [List.length_nil, withNodes_zero]
    rfl
  | cons pair rest ih =>
    rw [List.length_cons, withNodes_succ, handlesFrom, List.zip_cons_cons]
    exact (bind_of_ok (placePair_run pair)).trans ih

/-- A grid filled from nothing with distinct pairs lists them in their order. -/
theorem items_filled (first : NodeId) {pairs : List (NodeId × NodeId)} (distinct : pairs.Nodup) :
    (filled {} (pairs.zip (handlesFrom first pairs.length))).items =
      pairs.zip (handlesFrom first pairs.length) := by
  have keys : ((pairs.zip (handlesFrom first pairs.length)).map Prod.fst).Nodup := by
    rw [keys_zip_handlesFrom]
    exact distinct
  rw [Grid.items, pairs_filled]
  exact congrArg Table.entries (Table.ofList_eq keys)

/-- A grid filled from nothing finds the node of every pair. -/
theorem node?_filled (first : NodeId) {pairs : List (NodeId × NodeId)} (distinct : pairs.Nodup)
    {pair : NodeId × NodeId} (member : pair ∈ pairs) :
    (filled {} (pairs.zip (handlesFrom first pairs.length))).node? pair.1 pair.2 =
      some (handleOf first pairs pair) := by
  have items := items_filled first distinct
  rw [Grid.items] at items
  rw [Grid.node?, Table.get?, items, lookup_zip_handlesFrom, if_pos member]

/-! ## Visiting the pairs -/

theorem visitPair_of_ok {call : EdgeCall μ} {pair : NodeId × NodeId} {state : Graph × μ}
    (called : call.at build.grid pair (build.graph, build.memory) = .ok () state) :
    visitPair call pair build = .ok () { build with graph := state.1, memory := state.2 } :=
  (get_bind_run _ _).trans (within_of_ok called)

theorem visitPair_of_error (build : Build μ) {call : EdgeCall μ} {pair : NodeId × NodeId}
    {failure : Failure} {state : Graph × μ}
    (raised : call.at build.grid pair (build.graph, build.memory) = .error failure state) :
    visitPair call pair build =
      .error failure { build with graph := state.1, memory := state.2 } :=
  (get_bind_run _ _).trans (within_of_error raised)

/-- A rule is called for each pair in turn, on the graph and with the memory that the calls before
have left. -/
theorem visitPairs_of_ok (build : Build μ) {call : EdgeCall μ} {pairs : List (NodeId × NodeId)}
    {state : Graph × μ}
    (called : pairs.forM (call.at build.grid) (build.graph, build.memory) = .ok () state) :
    pairs.forM (visitPair call) build =
      .ok () { build with graph := state.1, memory := state.2 } := by
  induction pairs generalizing build with
  | nil =>
    cases called
    rfl
  | cons pair rest ih =>
    obtain ⟨_, reached, here, onward⟩ := of_bind_ok called
    exact (bind_of_ok (visitPair_of_ok here)).trans
      (ih { build with graph := reached.1, memory := reached.2 } onward)

/-- A rule that draws from every pair is called for each in turn. -/
theorem visitPairs_run (build : Build μ) {drawing : Drawing} {pairs : List (NodeId × NodeId)}
    {ends : NodeId × NodeId → List (NodeId × NodeId)}
    (each : ∀ pair ∈ pairs,
      Draws build.graph.nodes (drawing build.grid pair.1 pair.2) () (ends pair)) :
    pairs.forM (visitPair drawing.call) build =
      .ok () { build with graph := build.graph.withEdges (pairs.flatMap ends) } :=
  visitPairs_of_ok build (Drawing.calls_of_ok build.memory (draws_forM each build.graph rfl))

/-! ## Building -/

/-- The build when all pairs have their nodes and nothing has been drawn. -/
def placed (build : Build μ) (pairs : List (NodeId × NodeId)) : Build μ where
  graph := build.graph.cleared.withNodes pairs.length
  grid := filled {} (pairs.zip (handlesFrom build.graph.nextNode pairs.length))
  memory := build.memory

theorem placed_run (build : Build μ) (pairs : List (NodeId × NodeId)) :
    pairs.forM placePair build.cleared = .ok () (build.placed pairs) :=
  placePairs_run pairs

/-- In a placed build every pair has its node. -/
theorem placed_places (build : Build μ) {pairs : List (NodeId × NodeId)} (distinct : pairs.Nodup) :
    ∀ pair ∈ pairs, (build.placed pairs).grid.node? pair.1 pair.2 =
        some (handleOf build.graph.nextNode pairs pair) ∧
      handleOf build.graph.nextNode pairs pair ∈ (build.placed pairs).graph.nodes :=
  fun _ member => ⟨node?_filled build.graph.nextNode distinct member,
    handleOf_mem_withNodes build.graph.cleared member⟩

/-- The ends of the edges from the nodes of some pairs to the nodes of their targets. -/
def spans (place : NodeId × NodeId → NodeId) (pairs : List (NodeId × NodeId))
    (targets : NodeId × NodeId → List (NodeId × NodeId)) : List (NodeId × NodeId) :=
  pairs.flatMap fun pair => (targets pair).map fun target => (place pair, place target)

/-- The build when a rule has drawn from every pair to its targets. -/
def finished (build : Build μ) (pairs : List (NodeId × NodeId))
    (targets : NodeId × NodeId → List (NodeId × NodeId)) : Build μ where
  graph := (build.placed pairs).graph.withEdges
    (spans (handleOf build.graph.nextNode pairs) pairs targets)
  grid := (build.placed pairs).grid
  memory := build.memory

theorem finished_run {drawing : Drawing} {pairs : List (NodeId × NodeId)}
    {targets : NodeId × NodeId → List (NodeId × NodeId)} (distinct : pairs.Nodup)
    (reaches : drawing.Reaches pairs targets) (build : Build μ) :
    pairs.forM (visitPair drawing.call) (build.placed pairs) = .ok () (build.finished pairs targets) :=
  visitPairs_run (build.placed pairs) (reaches.draws (build.placed pairs).grid
    (handleOf build.graph.nextNode pairs) (build.placed pairs).graph.nodes
    (build.placed_places distinct))

/-- A build of two factors gives the pairs their nodes and then visits them. -/
theorem run_placed (first second : Graph) (call : Graph → Graph → EdgeCall μ) (build : Build μ) :
    run (.other first) (.other second) call build = (do
      (pairsOf first.nodes second.nodes).forM (visitPair (call first second))
      let product := (← get).graph
      return .product product.nodeCount product.edgeCount : Action (Build μ) Event)
        (build.placed (pairsOf first.nodes second.nodes)) := by
  refine (modify_bind_run _ _ build).trans ((get_bind_run _ _).trans ?_)
  exact bind_of_ok (placed_run build (pairsOf first.nodes second.nodes))

/-- A build under a rule that draws from every pair to its targets gives the pairs their nodes and
then draws these edges. -/
theorem run_of_reaches {first second : Graph} {drawing : Graph → Graph → Drawing}
    {targets : NodeId × NodeId → List (NodeId × NodeId)} (rows : first.nodes.Nodup)
    (columns : second.nodes.Nodup)
    (reaches : (drawing first second).Reaches (pairsOf first.nodes second.nodes) targets)
    (build : Build μ) :
    run (.other first) (.other second) (fun v w => (drawing v w).call) build =
      .ok (.product (build.finished (pairsOf first.nodes second.nodes) targets).graph.nodeCount
          (build.finished (pairsOf first.nodes second.nodes) targets).graph.edgeCount)
        (build.finished (pairsOf first.nodes second.nodes) targets) := by
  rw [run_placed]
  refine (bind_of_ok (finished_run (nodup_pairsOf rows columns) reaches build)).trans ?_
  exact get_bind_run _ _

end Build

end Multigraph
