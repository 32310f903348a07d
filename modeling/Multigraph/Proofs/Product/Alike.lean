import Multigraph.Product.Basic
import Multigraph.Proofs.Operation.Alike

/-!
Products of factors that are alike. An edge rule is asked for related pairs and finds related nodes
in matching grids, so it draws related edges (`Product.drawing_alike`); since the destinations are
emptied first, they need not be alike before. Builds from alike factors therefore end with alike
destinations and matching grids (`Product.request_alike`).
-/
namespace Multigraph

open Multigraph.Action

variable {p q r : Pairing} {first second first' second' : Graph} {u v x y : Int}

/-- The pairs of two grids match and have related nodes. -/
def Grid.Alike (p q r : Pairing) (grid grid' : Grid) : Prop :=
  grid.pairs.Matches (Both p.nodes q.nodes) r.nodes grid'.pairs

theorem Grid.node_yields {grid grid' : Grid} (grids : grid.Alike p q r grid') (row : p.nodes u x)
    (column : q.nodes v y) : Yields r.nodes (grid.node u v) (grid'.node x y) := by
  have found : Option.Rel r.nodes (grid.node? u v) (grid'.node? x y) :=
    Table.Matches.get? (Both.biUnique p.nodes.biUnique q.nodes.biUnique) grids ⟨row, column⟩
  unfold Grid.node
  generalize grid.node? u v = here, grid'.node? x y = there at found
  cases found with
  | none => exact yields_error _ _
  | some nodes => exact yields_ok nodes

/-! ## Drawings -/

namespace Drawing

/-- Asked for related pairs in matching grids, the second drawing simulates the first. -/
def Alike (p q r : Pairing) (drawing drawing' : Drawing) : Prop :=
  ∀ {grid grid' : Grid}, grid.Alike p q r grid' → ∀ {u v x y}, p.nodes u x → q.nodes v y →
    Simulates r.Graphs (· = ·) (drawing grid u v) (drawing' grid' x y)

theorem drawTo_simulates {grid grid' : Grid} (grids : grid.Alike p q r grid') (node : r.nodes u x)
    {pairs pairs' : List (NodeId × NodeId)}
    (lists : List.Forall₂ (Both p.nodes q.nodes) pairs pairs') :
    Simulates r.Graphs (· = ·) (drawTo grid u pairs) (drawTo grid' x pairs') := by
  refine simulates_forM lists ?_
  rintro ⟨a, b⟩ ⟨c, d⟩ ⟨row, column⟩
  refine simulates_bind (simulates_ofExcept (Grid.node_yields grids row column)) ?_
  exact fun _ _ target => simulates_discard (Graph.newEdge_simulates node target)

theorem along_alike
    {targets targets' : NodeId → NodeId → Except Failure (List (NodeId × NodeId))}
    (related : ∀ {u v x y}, p.nodes u x → q.nodes v y →
      Yields (List.Forall₂ (Both p.nodes q.nodes)) (targets u v) (targets' x y)) :
    Alike p q r (along targets) (along targets') := by
  intro grid grid' grids u v x y row column
  refine simulates_bind (simulates_ofExcept (Grid.node_yields grids row column)) fun _ _ node => ?_
  refine simulates_bind (simulates_ofExcept (related row column)) fun _ _ lists => ?_
  exact drawTo_simulates grids node lists

theorem followedBy_alike {drawing drawing' next next' : Drawing}
    (one : Alike p q r drawing drawing') (two : Alike p q r next next') :
    Alike p q r (followedBy drawing next) (followedBy drawing' next') := by
  intro grid grid' grids u v x y row column
  exact simulates_bind (one grids row column) fun _ _ _ => two grids row column

theorem secondEdges_alike (seconds : q.Graphs second second') :
    Alike p q r (secondEdges second) (secondEdges second') := by
  refine along_alike fun row column => ?_
  refine yields_bind (seconds.atNode column (seconds.successors column)) fun _ _ targets => ?_
  exact yields_ok (List.rel_map (fun _ _ target => ⟨row, target⟩) targets)

theorem firstEdges_alike (firsts : p.Graphs first first') :
    Alike p q r (firstEdges first) (firstEdges first') := by
  refine along_alike fun row column => ?_
  refine yields_bind (firsts.atNode row (firsts.successors row)) fun _ _ targets => ?_
  exact yields_ok (List.rel_map (fun _ _ target => ⟨target, column⟩) targets)

theorem bothEdges_alike (firsts : p.Graphs first first') (seconds : q.Graphs second second') :
    Alike p q r (bothEdges first second) (bothEdges first' second') := by
  refine along_alike fun row column => ?_
  refine yields_bind (seconds.atNode column (seconds.successors column)) fun _ _ targets => ?_
  refine yields_bind (firsts.atNode row (firsts.twins row)) fun _ _ twins => ?_
  exact yields_ok (List.rel_flatMap twins fun _ _ twin =>
    List.rel_map (fun _ _ target => ⟨twin, target⟩) targets)

theorem firstEdgesToAll_alike (firsts : p.Graphs first first')
    (seconds : q.Graphs second second') :
    Alike p q r (firstEdgesToAll first second) (firstEdgesToAll first' second') := by
  refine along_alike fun row column => ?_
  refine yields_bind (firsts.atNode row (firsts.successors row)) fun _ _ targets => ?_
  exact yields_ok (List.rel_flatMap seconds.nodes fun _ _ node =>
    List.rel_map (fun _ _ target => ⟨target, node⟩) targets)

theorem secondEdgesToAll_alike (firsts : p.Graphs first first')
    (seconds : q.Graphs second second') :
    Alike p q r (secondEdgesToAll first second) (secondEdgesToAll first' second') := by
  refine along_alike fun row column => ?_
  refine yields_bind (seconds.atNode column (seconds.successors column)) fun _ _ targets => ?_
  exact yields_ok (List.rel_flatMap firsts.nodes fun _ _ node =>
    List.rel_map (fun _ _ target => ⟨node, target⟩) targets)

theorem apartEdges_alike (firsts : p.Graphs first first') (seconds : q.Graphs second second') :
    Alike p q r (apartEdges first second) (apartEdges first' second') := by
  refine along_alike fun {u v x y} row column => ?_
  refine yields_bind (firsts.atNode row (firsts.neighbours row)) fun beside beside' rows => ?_
  refine yields_bind (seconds.atNode column (seconds.neighbours column)) fun near near' columns => ?_
  refine yields_bind (seconds.atNode column (seconds.later column)) fun behind behind' later => ?_
  have others : List.Forall₂ p.nodes (first.nodes.filter fun v' => v' ≠ u && v' ∉ beside)
      (first'.nodes.filter fun v' => v' ≠ x && v' ∉ beside') :=
    filter_of_forall₂ firsts.nodes fun _ _ node => by
      simp only [ne_eq, Matching.eq_iff node row, Matching.mem_iff rows node]
  have targets : List.Forall₂ q.nodes (behind.filter fun w' => w' ∉ near)
      (behind'.filter fun w' => w' ∉ near') :=
    filter_of_forall₂ later fun _ _ node => by simp only [Matching.mem_iff columns node]
  exact yields_ok (List.rel_flatMap others fun _ _ node =>
    List.rel_map (fun _ _ target => ⟨node, target⟩) targets)

theorem firstEdgesAt_alike {root root' : NodeId} (roots : q.nodes root root')
    (firsts : p.Graphs first first') :
    Alike p q r (firstEdgesAt root first) (firstEdgesAt root' first') := by
  intro grid grid' grids u v x y row column
  exact simulates_ite (Matching.eq_iff column roots) (firstEdges_alike firsts grids row column)
    (simulates_pure rfl)

end Drawing

/-! ## Products -/

namespace Product

/-- Products of one kind, with related roots if they have any. -/
inductive Alike (M : Matching) : Product → Product → Prop where
  | rootless {product : Product} (rootless : ∀ root, product ≠ .rooted root) :
      Alike M product product
  | rooted {root root' : NodeId} (roots : M root root') : Alike M (.rooted root) (.rooted root')

variable {product product' : Product}

open Drawing in
theorem drawing_alike (products : Alike q.nodes product product') (firsts : p.Graphs first first')
    (seconds : q.Graphs second second') :
    Drawing.Alike p q r (product.drawing first second) (product'.drawing first' second') := by
  cases products with
  | rooted roots =>
    exact followedBy_alike (secondEdges_alike seconds) (firstEdgesAt_alike roots firsts)
  | rootless rootless =>
    cases product with
    | cartesian => exact followedBy_alike (secondEdges_alike seconds) (firstEdges_alike firsts)
    | tensor => exact bothEdges_alike firsts seconds
    | lexicographical =>
      exact followedBy_alike (firstEdgesToAll_alike firsts seconds) (secondEdges_alike seconds)
    | strong =>
      exact followedBy_alike
        (followedBy_alike (secondEdges_alike seconds) (firstEdges_alike firsts))
        (bothEdges_alike firsts seconds)
    | coNormal =>
      exact followedBy_alike (firstEdgesToAll_alike firsts seconds)
        (secondEdgesToAll_alike firsts seconds)
    | modular =>
      exact followedBy_alike (bothEdges_alike firsts seconds) (apartEdges_alike firsts seconds)
    | rooted root => exact absurd rfl (rootless root)

theorem requireRoot_yields (products : Alike q.nodes product product')
    (seconds : q.Graphs second second') :
    Yields (· = ·) (product.requireRoot second) (product'.requireRoot second') := by
  cases products with
  | rooted roots => exact yields_ite (seconds.mem_iff roots) (yields_ok rfl)
  | rootless rootless =>
    cases product with
    | rooted root => exact absurd rfl (rootless root)
    | _ => exact yields_ok rfl

end Product

/-! ## Builds -/

namespace Build

variable {μ : Type}

/-- Builds with alike destinations and matching grids. -/
structure Alike (p q r : Pairing) (build other : Build μ) : Prop where
  graph : r.Graphs build.graph other.graph
  grid : build.grid.Alike p q r other.grid

/-- What simulates on the destinations simulates on the builds. -/
theorem onGraph_simulates {α β : Type} {P : α → β → Prop} {action : Action Graph α}
    {other : Action Graph β} (inner : Simulates r.Graphs P action other) :
    Simulates (Alike (μ := μ) p q r) P (onGraph action) (onGraph other) :=
  simulates_within (fun _ _ builds => builds.graph)
    (fun _ _ _ _ builds graphs => ⟨graphs, builds.grid⟩) inner

theorem placePair_simulates {pair pair' : NodeId × NodeId}
    (pairs : Both p.nodes q.nodes pair pair') :
    Simulates (Alike (μ := μ) p q r) (· = ·) (placePair pair) (placePair pair') := by
  refine simulates_bind (onGraph_simulates Graph.newNode_simulates) fun _ _ node => ?_
  refine simulates_modify fun build other builds => ⟨builds.graph, ?_⟩
  exact Table.Matches.insert (Both.biUnique p.nodes.biUnique q.nodes.biUnique) builds.grid pairs node

theorem visitPair_simulates {drawing drawing' : Drawing}
    (drawings : Drawing.Alike p q r drawing drawing') {pair pair' : NodeId × NodeId}
    (pairs : Both p.nodes q.nodes pair pair') :
    Simulates (Alike (μ := μ) p q r) (· = ·) (visitPair drawing.call pair)
      (visitPair drawing'.call pair') := by
  refine simulates_bind simulates_get fun build other builds => ?_
  refine simulates_within (I := fun state start => r.Graphs state.1 start.1)
    (fun _ _ builds => builds.graph) (fun _ _ _ _ builds graphs => ⟨graphs, builds.grid⟩) ?_
  exact simulates_within (fun _ _ graphs => graphs) (fun _ _ _ _ _ graphs => graphs)
    (drawings builds.grid pairs.1 pairs.2)

theorem pairsOf_pairs {l m l' m' : List NodeId} (rows : List.Forall₂ p.nodes l l')
    (columns : List.Forall₂ q.nodes m m') :
    List.Forall₂ (Both p.nodes q.nodes) (pairsOf l m) (pairsOf l' m') :=
  List.rel_flatMap rows fun _ _ row => List.rel_map (fun _ _ column => ⟨row, column⟩) columns

/-- Builds of alike factors under drawings that are alike end alike, whatever was there before. -/
theorem run_alike {drawing drawing' : Graph → Graph → Drawing} (firsts : p.Graphs first first')
    (seconds : q.Graphs second second')
    (drawings : Drawing.Alike p q r (drawing first second) (drawing' first' second'))
    {build other : Build μ} (emptied : r.Graphs build.graph.cleared other.graph.cleared)
    {event : Event} {left : Build μ}
    (ran : run (.other first) (.other second) (fun v w => (drawing v w).call) build =
      .ok event left) :
    ∃ left', run (.other first') (.other second') (fun v w => (drawing' v w).call) other =
        .ok event left' ∧ Alike p q r left left' := by
  suffices rest : ∃ event' left',
      run (.other first') (.other second') (fun v w => (drawing' v w).call) other =
        .ok event' left' ∧ event = event' ∧ Alike p q r left left' by
    obtain ⟨_, left', ran', rfl, alike⟩ := rest
    exact ⟨left', ran', alike⟩
  have cleared : Alike p q r build.cleared other.cleared := ⟨emptied, .nil⟩
  have pairs := pairsOf_pairs firsts.nodes seconds.nodes
  rw [run, modify_bind_run] at ran ⊢
  refine simulates_from cleared ?_ ran
  refine simulates_bind (simulates_forM pairs fun _ _ => placePair_simulates) fun _ _ _ => ?_
  refine simulates_bind (simulates_forM pairs fun _ _ => visitPair_simulates drawings) fun _ _ _ => ?_
  refine simulates_bind simulates_get fun final final' builds => simulates_pure ?_
  rw [Graph.nodeCount, Graph.nodeCount, builds.graph.nodes.length_eq, Graph.edgeCount,
    Graph.edgeCount, builds.graph.edges.length_eq]

end Build

/-- Requests for products of one kind, with related roots if they have any, build alike products
from alike factors. -/
theorem Product.request_alike {kind : Datum} {root root' : Option NodeId}
    {product product' : Product} (asked : ofRequest kind root = .ok product)
    (asked' : ofRequest kind root' = .ok product') (products : Alike q.nodes product product')
    (firsts : p.Graphs first first') (seconds : q.Graphs second second')
    {build other : Build Unit} (emptied : r.Graphs build.graph.cleared other.graph.cleared)
    {event : Event} {left : Build Unit}
    (ran : request kind root (.other first) (.other second) build = .ok event left) :
    ∃ left', request kind root' (.other first') (.other second') other = .ok event left' ∧
      Build.Alike p q r left left' := by
  rw [request, bind_of_ok (ofExcept_of_ok asked build)] at ran
  rw [request, bind_of_ok (ofExcept_of_ok asked' other)]
  obtain ⟨_, between, checked, built⟩ := of_bind_ok ran
  cases known : product.requireRoot second with
  | error failure =>
    have refused : query (fun build : Build Unit => product.requireRoot
        ((Operand.other second).view build.graph)) build = .error failure build :=
      query_of_error known
    cases refused.symm.trans checked
  | ok answer =>
    have passed : query (fun build : Build Unit => product.requireRoot
        ((Operand.other second).view build.graph)) build = .ok answer build := query_of_ok known
    obtain ⟨_, known', _⟩ := requireRoot_yields products seconds answer known
    have passed' : query (fun build : Build Unit => product'.requireRoot
        ((Operand.other second').view build.graph)) other = .ok _ other := query_of_ok known'
    cases passed.symm.trans checked
    obtain ⟨left', built', alike⟩ :=
      Build.run_alike firsts seconds (drawing_alike products firsts seconds) emptied built
    exact ⟨left', (bind_of_ok passed').trans built', alike⟩

end Multigraph
