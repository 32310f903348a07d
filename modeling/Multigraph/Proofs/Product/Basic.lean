import Multigraph.Proofs.Product.Count
import Multigraph.Proofs.Workspace.Merge

/-!
What the graph products are, edge by edge. A build lays out the grid and draws from pair to pair
(`run_of_reaches`); counted between two nodes of the grid, its edges are as many as the product
has between the two pairs (`finished_built`). Where a workspace `Admits` a product, the command
`Builds` it. For the products that follow one factor at a time the number of all edges is a formula
in the sizes of the factors (`one_factor_products_exact`).
-/
namespace Multigraph

open Multigraph.Action Multigraph.Graph Build Drawing

namespace Build

/-! ## Edges between the nodes of pairs -/

variable {place : NodeId × NodeId → NodeId} {pairs : List (NodeId × NodeId)}
  {targets : NodeId × NodeId → List (NodeId × NodeId)}

theorem length_spans : (spans place pairs targets).length = (pairs.flatMap targets).length := by
  simp only [spans, List.length_flatMap, List.length_map]

theorem mem_spans {x : NodeId × NodeId} :
    x ∈ spans place pairs targets ↔
      ∃ pair ∈ pairs, ∃ target ∈ targets pair, (place pair, place target) = x := by
  simp only [spans, List.mem_flatMap, List.mem_map]

/-- The nodes of two pairs are joined as often as one is a target of the other. -/
theorem count_spans (distinct : pairs.Nodup)
    (injective : ∀ pair ∈ pairs, ∀ other, place pair = place other → pair = other)
    (inside : ∀ pair ∈ pairs, ∀ target ∈ targets pair, target ∈ pairs)
    {pair : NodeId × NodeId} (member : pair ∈ pairs) (target : NodeId × NodeId) :
    (spans place pairs targets).count (place pair, place target) = (targets pair).count target := by
  have each : ∀ other ∈ pairs,
      ((targets other).map fun t => (place other, place t)).count (place pair, place target) =
        if other = pair then (targets pair).count target else 0 := by
    intro other held
    by_cases same : other = pair
    · subst same
      rw [if_pos rfl, List.count_eq_countP, List.countP_map, List.count_eq_countP]
      refine List.countP_congr fun t listed => ?_
      have told : place t = place target ↔ t = target :=
        ⟨injective t (inside other held t listed) target, congrArg place⟩
      simp [told]
    · rw [if_neg same]
      refine List.count_eq_zero.mpr fun listed => ?_
      obtain ⟨t, _, meet⟩ := List.mem_map.mp listed
      exact same (injective other held pair (congrArg Prod.fst meet))
  -- Of all passes only the one at the pair itself draws from its node.
  rw [spans, List.count_flatMap]
  have sums : pairs.map (List.count (place pair, place target) ∘ fun other =>
      (targets other).map fun t => (place other, place t)) =
        pairs.map fun other => if other = pair then (targets pair).count target else 0 :=
    List.map_congr_left each
  rw [sums, sum_single distinct, if_pos member]

/-- If the nodes of the pairs increase, the sources never decrease. -/
theorem spans_sources (targets : NodeId × NodeId → List (NodeId × NodeId))
    (increasing : pairs.Pairwise fun pair other => place pair < place other) :
    (spans place pairs targets).Pairwise fun x y => x.1 ≤ y.1 := by
  refine List.pairwise_flatMap.mpr ⟨fun pair _ => ?_, increasing.imp ?_⟩
  · exact List.pairwise_map.mpr (List.pairwise_of_forall fun _ _ => Int.le_refl _)
  · intro pair other less x first y second
    obtain ⟨_, _, rfl⟩ := List.mem_map.mp first
    obtain ⟨_, _, rfl⟩ := List.mem_map.mp second
    exact Int.le_of_lt less

end Build

namespace Product

/-- What it is for a graph, with a grid of its nodes, to be a product of two others. -/
structure Built (product : Product) (first second before after : Graph) (grid : Grid) : Prop where
  nodes_eq : after.nodes =
    handlesFrom before.nextNode (first.nodes.length * second.nodes.length)
  /-- Every pair has its node in the grid, row by row. -/
  placed : ∀ v ∈ first.nodes, ∀ w ∈ second.nodes, grid.node? v w =
    some (handleOf before.nextNode (pairsOf first.nodes second.nodes) (v, w))
  /-- The edges between the nodes of two pairs are as many as the product has there. -/
  counted : ∀ v ∈ first.nodes, ∀ w ∈ second.nodes, ∀ v' ∈ first.nodes, ∀ w' ∈ second.nodes,
    ∀ source target, grid.node? v w = some source → grid.node? v' w' = some target →
      after.multiplicity source target = product.times first second (v, w) (v', w')
  /-- All edges are between nodes of pairs. -/
  nothing_else : ∀ e ∈ after.edges,
    (∃ v ∈ first.nodes, ∃ w ∈ second.nodes, grid.node? v w = some e.source) ∧
      ∃ v ∈ first.nodes, ∃ w ∈ second.nodes, grid.node? v w = some e.target
  ids_eq : after.edges.map Edge.id = handlesFrom before.nextEdge after.edges.length
  sources_nondecreasing : after.edges.Pairwise fun e f => e.source ≤ f.source

variable {product : Product} {first second : Graph}

theorem finished_edges (build : Build Unit) (pairs : List (NodeId × NodeId))
    (targets : NodeId × NodeId → List (NodeId × NodeId)) :
    (build.finished pairs targets).graph.edges = Edge.numbered build.graph.nextEdge
      (spans (handleOf build.graph.nextNode pairs) pairs targets) := List.nil_append _

/-- The edges between two nodes are the spans between them. -/
theorem multiplicity_finished (build : Build Unit) (pairs : List (NodeId × NodeId))
    (targets : NodeId × NodeId → List (NodeId × NodeId)) (u v : NodeId) :
    (build.finished pairs targets).graph.multiplicity u v =
      (spans (handleOf build.graph.nextNode pairs) pairs targets).count (u, v) := by
  rw [Graph.multiplicity, finished_edges, List.count_eq_countP]
  simp only [Edge.runs_eq]
  refine (Edge.countP_numbered _ _ fun ends => decide (ends = (u, v))).trans ?_
  exact List.countP_congr fun ends _ => by simp

/-- What a finished build of a product has built. -/
theorem finished_built (product : Product) (wf : first.WellFormed) (other : second.WellFormed)
    (build : Build Unit) :
    Built product first second build.graph
      (build.finished (pairsOf first.nodes second.nodes) (product.targets first second)).graph
      (build.finished (pairsOf first.nodes second.nodes) (product.targets first second)).grid := by
  obtain ⟨pairs, listed⟩ : ∃ pairs, pairs = pairsOf first.nodes second.nodes := ⟨_, rfl⟩
  have distinct : pairs.Nodup := listed ▸ nodup_pairsOf wf.nodes_nodup other.nodes_nodup
  have reaches := drawing_reaches product wf other
  have member : ∀ {v w}, (v, w) ∈ pairs ↔ v ∈ first.nodes ∧ w ∈ second.nodes := by
    rw [listed]
    exact mem_pairsOf
  have found : ∀ {v w}, (v, w) ∈ pairs →
      (build.finished pairs (product.targets first second)).grid.node? v w =
        some (handleOf build.graph.nextNode pairs (v, w)) := fun held =>
    (placed_places build distinct _ held).1
  rw [← listed] at reaches ⊢
  refine ⟨?_, ?_, ?_, ?_, ?_, ?_⟩
  · rw [← length_pairsOf, ← listed]
    rfl
  · intro v row w column
    rw [← listed]
    exact found (member.mpr ⟨row, column⟩)
  · intro v row w column v' row' w' column' source target atSource atTarget
    have start := member.mpr ⟨row, column⟩
    have goal := member.mpr ⟨row', column'⟩
    rw [found start] at atSource
    rw [found goal] at atTarget
    cases atSource
    cases atTarget
    rw [multiplicity_finished, count_spans distinct (fun _ held _ => handleOf_inj held)
      reaches.inside start, count_targets product wf other (listed ▸ goal)]
  · intro e drawn
    rw [finished_edges] at drawn
    obtain ⟨⟨v, w⟩, start, ⟨v', w'⟩, leads, same⟩ :=
      mem_spans.mp (Edge.ends_mem_of_mem_numbered drawn)
    have goal := reaches.inside _ start _ leads
    obtain ⟨source, target⟩ := Prod.mk.inj same
    refine ⟨⟨v, (member.mp start).1, w, (member.mp start).2, ?_⟩,
      ⟨v', (member.mp goal).1, w', (member.mp goal).2, ?_⟩⟩
    · rw [found start, source]
    · rw [found goal, target]
  · rw [finished_edges, Edge.map_id_numbered, Edge.length_numbered]
  · have sources := spans_sources (product.targets first second)
      (handleOf_increasing build.graph.nextNode distinct)
    rw [← Edge.map_ends_numbered build.graph.nextEdge
      (spans (handleOf build.graph.nextNode pairs) pairs (product.targets first second))] at sources
    have told := List.pairwise_map.mp sources
    rw [finished_edges]
    exact told

/-- A rooted product needs a root in its second factor. -/
theorem requireRoot_rooted {root : NodeId} {second : Graph} :
    requireRoot (.rooted root) second = .ok () ↔ root ∈ second.nodes := by
  rw [requireRoot]
  split
  · rename_i held
    exact iff_of_true rfl held
  · rename_i foreign
    exact iff_of_false (fun passed => by cases passed) foreign

/-- The request for a product that needs no other root than it has is a build of the product. -/
theorem request_run {kind : Datum} {root : Option NodeId}
    (asked : Product.ofRequest kind root = .ok product)
    (rooted : product.requireRoot second = .ok ()) (wf : first.WellFormed)
    (other : second.WellFormed) (build : Build Unit) :
    ∃ event, request kind root (.other first) (.other second) build =
      .ok event (build.finished (pairsOf first.nodes second.nodes)
        (product.targets first second)) := by
  have ran := run_of_reaches wf.nodes_nodup other.nodes_nodup (drawing_reaches product wf other) build
  have checked : Action.query (fun build : Build Unit =>
      product.requireRoot ((Operand.other second).view build.graph)) build = .ok () build :=
    query_of_ok rooted
  exact ⟨_, (bind_of_ok (ofExcept_of_ok asked build)).trans ((bind_of_ok checked).trans ran)⟩

end Product

namespace Workspace

variable {w : Workspace} {kind : Datum} {root : Option NodeId} {product : Product}
  {first second destination : GraphId}

/-- A product into a graph that is neither factor succeeds, whether a grid is given or not. -/
theorem product_run (reached : w.Reachable)
    (asked : Product.ofRequest kind root = .ok product)
    (rooted : product.requireRoot (w.graph second) = .ok ()) (apart : destination ≠ first)
    (away : destination ≠ second) (held : destination < w.graphs.length) {grid : Option GridId}
    (present : ∀ id, grid = some id → id < w.grids.length) :
    ∃ event after id,
      run (.product kind root first second destination grid) w =
        .ok { answer := .grid id, event := some event } after ∧
      product.Built (w.graph first) (w.graph second) (w.graph destination)
        (after.graph destination) (after.grid id) ∧
      (after.graph destination).edges.length = ((pairsOf (w.graph first).nodes
        (w.graph second).nodes).flatMap (product.targets (w.graph first) (w.graph second))).length ∧
      ∀ other, other ≠ destination → after.graph other = w.graph other := by
  have wf := reached.wellFormed first
  have other := reached.wellFormed second
  obtain ⟨build, start⟩ : ∃ build : Build Unit, build =
      { graph := w.graph destination, grid := (grid.map w.grid).getD {}, memory := () } := ⟨_, rfl⟩
  obtain ⟨event, ran⟩ := Product.request_run asked rooted wf other build
  have built := Product.finished_built product wf other build
  rw [start] at ran built
  rw [← operand_other apart, ← operand_other away] at ran
  obtain ⟨after, id, made, _, graph, filled, others⟩ := product_completes held present ran
  refine ⟨event, after, id, made, ?_, ?_, others⟩
  · rw [graph, filled]
    exact built
  · rw [graph, Product.finished_edges, Edge.length_numbered, length_spans]

/-- A workspace in which two graphs, perhaps the same, can be multiplied into a third. -/
structure Admits (w : Workspace) (first second destination : GraphId) (grid : Option GridId) :
    Prop where
  reached : w.Reachable
  apart : destination ≠ first
  away : destination ≠ second
  held : destination < w.graphs.length
  present : ∀ id, grid = some id → id < w.grids.length

/-- The command for a product succeeds, what it leaves at the destination is the product of the
two graphs, with the answered grid, and all other graphs stay as they are. -/
structure Builds (w : Workspace) (kind : Datum) (first second destination : GraphId)
    (grid : Option GridId) (product : Product) (after : Workspace) (id : GridId) : Prop where
  run_eq : ∃ event, run (.product kind none first second destination grid) w =
    .ok { answer := .grid id, event := some event } after
  built : product.Built (w.graph first) (w.graph second) (w.graph destination)
    (after.graph destination) (after.grid id)
  others : ∀ other, other ≠ destination → after.graph other = w.graph other

/-- Where a product can be built, the command for a product without a root builds it. -/
theorem Admits.builds (kind : Datum) {grid : Option GridId}
    (admits : w.Admits first second destination grid)
    (asked : Product.ofRequest kind none = .ok product)
    (rooted : product.requireRoot (w.graph second) = .ok ()) :
    ∃ after id, w.Builds kind first second destination grid product after id ∧
      (after.graph destination).edges.length = ((pairsOf (w.graph first).nodes
        (w.graph second).nodes).flatMap
          (product.targets (w.graph first) (w.graph second))).length := by
  obtain ⟨event, after, id, ran, built, edges, others⟩ :=
    product_run admits.reached asked rooted admits.apart admits.away admits.held admits.present
  exact ⟨after, id, ⟨⟨event, ran⟩, built, others⟩, edges⟩

/-- In every workspace that commands lead to, a cartesian, lexicographical, co-normal or rooted
product into a graph that is neither factor succeeds. It leaves exactly the edges of the product,
numbered in the order of their sources, and as many as the sizes of the factors say; the factors
stay as they are, and may be one graph. -/
theorem one_factor_products_exact (reached : w.Reachable)
    (asked : Product.ofRequest kind root = .ok product)
    (oneFactor : product = .cartesian ∨ product = .lexicographical ∨ product = .coNormal ∨
      ∃ r ∈ (w.graph second).nodes, product = .rooted r)
    (apart : destination ≠ first) (away : destination ≠ second)
    (held : destination < w.graphs.length) {grid : Option GridId}
    (present : ∀ id, grid = some id → id < w.grids.length) :
    ∃ event after id,
      run (.product kind root first second destination grid) w =
        .ok { answer := .grid id, event := some event } after ∧
      product.Built (w.graph first) (w.graph second) (w.graph destination)
        (after.graph destination) (after.grid id) ∧
      (product = .cartesian → (after.graph destination).edges.length =
        (w.graph first).edges.length * (w.graph second).nodes.length +
          (w.graph second).edges.length * (w.graph first).nodes.length) ∧
      (product = .lexicographical → (after.graph destination).edges.length =
        (w.graph first).edges.length * (w.graph second).nodes.length ^ 2 +
          (w.graph second).edges.length * (w.graph first).nodes.length) ∧
      (product = .coNormal → (after.graph destination).edges.length =
        (w.graph first).edges.length * (w.graph second).nodes.length ^ 2 +
          (w.graph second).edges.length * (w.graph first).nodes.length ^ 2) ∧
      (∀ r, product = .rooted r → (after.graph destination).edges.length =
        (w.graph first).edges.length +
          (w.graph second).edges.length * (w.graph first).nodes.length) ∧
      after.graph first = w.graph first ∧ after.graph second = w.graph second := by
  have wf := reached.wellFormed first
  have other := reached.wellFormed second
  have rooted : product.requireRoot (w.graph second) = .ok () := by
    rcases oneFactor with rfl | rfl | rfl | ⟨r, known, rfl⟩
    · rfl
    · rfl
    · rfl
    · exact if_pos known
  obtain ⟨event, after, id, ran, built, edges, others⟩ :=
    product_run reached asked rooted apart away held present
  refine ⟨event, after, id, ran, built, ?_, ?_, ?_, ?_, others first (Ne.symm apart),
    others second (Ne.symm away)⟩
  · rintro rfl
    rw [edges]
    unfold Product.targets
    rw [length_flatMap_append, length_secondTargets _ other, length_firstTargets wf]
    exact Nat.add_comm _ _
  · rintro rfl
    rw [edges]
    unfold Product.targets
    rw [length_flatMap_append, length_firstTargetsToAll wf, length_secondTargets _ other]
  · rintro rfl
    rw [edges]
    unfold Product.targets
    rw [length_flatMap_append, length_firstTargetsToAll wf, length_secondTargetsToAll _ other]
  · rintro r rfl
    have known : r ∈ (w.graph second).nodes := by simpa using oneFactor
    rw [edges]
    unfold Product.targets
    rw [length_flatMap_append, length_secondTargets _ other, length_firstTargetsAt wf other known]
    exact Nat.add_comm _ _

/-- Two factors with gaps in their handles, loops and parallel edges, and a destination in use. -/
def factors : List Command :=
  [.newGraph, .newNode 0, .newNode 0, .newNode 0, .deleteNode 0 0, .newEdge 0 1 2, .newEdge 0 1 2,
    .newEdge 0 2 2, .newGraph, .newNode 1, .newNode 1, .newNode 1, .deleteNode 1 1, .newEdge 1 0 2,
    .newEdge 1 2 0, .newEdge 1 0 0, .newGraph, .newNode 2, .newEdge 2 0 0]

theorem one_factor_products_exact_factors :
    Reachable (runAll {} factors) ∧
    Product.ofRequest (.text "rooted") (some 2) = .ok (.rooted 2) ∧
    2 ∈ ((runAll {} factors).graph 1).nodes ∧ 2 ≠ 0 ∧ 2 ≠ 1 ∧
    2 < (runAll {} factors).graphs.length ∧
    ∃ event after id,
      run (.product (.text "rooted") (some 2) 0 1 2 none) (runAll {} factors) =
        .ok { answer := .grid id, event := some event } after ∧
      Product.Built (.rooted 2) ((runAll {} factors).graph 0) ((runAll {} factors).graph 1)
        ((runAll {} factors).graph 2) (after.graph 2) (after.grid id) ∧
      (after.graph 2).edges.length = 9 := by
  have reached : Reachable (runAll {} factors) :=
    reachable_runAll .empty (by simp [factors, Command.Proper])
  have asked : Product.ofRequest (.text "rooted") (some 2) = .ok (.rooted 2) := by rfl
  have known : 2 ∈ ((runAll {} factors).graph 1).nodes := by decide +kernel
  have held : 2 < (runAll {} factors).graphs.length := by decide +kernel
  have apart : (2 : GraphId) ≠ 0 := by decide
  have away : (2 : GraphId) ≠ 1 := by decide
  have absent : ∀ id, (none : Option GridId) = some id → id < (runAll {} factors).grids.length :=
    fun _ given => by cases given
  obtain ⟨event, after, id, ran, built, _, _, _, edges, _, _⟩ := one_factor_products_exact reached
    asked (.inr (.inr (.inr ⟨2, known, rfl⟩))) apart away held absent
  exact ⟨reached, asked, known, apart, away, held, event, after, id, ran, built,
    (edges 2 rfl).trans (by decide +kernel)⟩

end Workspace

end Multigraph
