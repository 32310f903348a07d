import Multigraph.Proofs.Operation.Simple
import Multigraph.Proofs.Product.Aliased
import Multigraph.Proofs.Product.Simple

/-!
Commands that leave simple graphs, in every workspace that commands lead to: complements, joins and
unions without parallel edges of graphs without loops, intersections of a simple graph, and products
of simple graphs (`simple_graphs_closed`). Joins and unions need identifications that are distinct
(`Identifies`). An intersection needs nothing: also one that fails takes edges away only
(`intersection_command_loses`). A product may even be put into one of its factors.
-/
namespace Multigraph.Workspace

open Multigraph.Action Multigraph.Graph Build

variable {w : Workspace} {first second : GraphId} {m : MapId}

/-! ## Graphs without loops -/

/-- A correspondence identifies nodes of one graph with nodes of another, no two with one. -/
structure Identifies (w : Workspace) (m : MapId) (domain codomain : GraphId) : Prop where
  bound : w.isBoundTo m domain = true
  points : (w.map m).values.PointsInto (w.graph domain) (w.graph codomain)
  separates : (w.map m).values.Separates (w.graph domain).nodes

instance (w : Workspace) (m : MapId) (domain codomain : GraphId) :
    Decidable (w.Identifies m domain codomain) :=
  decidable_of_iff (w.isBoundTo m domain = true ∧
      (w.map m).values.PointsInto (w.graph domain) (w.graph codomain) ∧
      (w.map m).values.Separates (w.graph domain).nodes)
    ⟨fun ⟨bound, points, separates⟩ => ⟨bound, points, separates⟩,
      fun identifies => ⟨identifies.bound, identifies.points, identifies.separates⟩⟩

/-- The complement of a graph without loops is simple. -/
theorem complement_leaves_simple (reached : w.Reachable) {id : GraphId}
    (held : id < w.graphs.length) (straight : (w.graph id).hasLoops = false) :
    ∃ event after,
      run (.complement id { directional := false, allowSelfLoops := false }) w =
        .ok { answer := .done, event := some event } after ∧
      (after.graph id).isSimple = true := by
  obtain ⟨event, after, ran, _, replaced⟩ := complement_command reached held {}
  refine ⟨event, after, ran, ?_⟩
  rw [replaced.graph_eq]
  exact isSimple_complemented (reached.wellFormed id) straight

/-- A join of graphs without loops is simple. -/
theorem join_leaves_simple (reached : w.Reachable) (apart : first ≠ second)
    (held : first < w.graphs.length) (identifies : w.Identifies m second first)
    (straight : (w.graph first).hasLoops = false) (straight' : (w.graph second).hasLoops = false) :
    ∃ event after,
      run (.join first second m) w = .ok { answer := .map m, event := some event } after ∧
      (after.graph first).isSimple = true := by
  have other := reached.wellFormed second
  obtain ⟨event, after, joined, ran, _, merged, joins⟩ :=
    join_leaves reached apart held identifies.bound identifies.points
  refine ⟨event, after, ran, ?_⟩
  rw [merged.graph_eq]
  apply joins.isSimple
  apply joins.hasLoops_eq other straight straight'
  intro a inside b inside' same
  exact Assignment.placeFrom_inj (reached.wellFormed first) identifies.points identifies.separates
    (fun _ listed _ => listed) inside inside' same

/-- A union of graphs without loops is simple if it takes parallel edges away. -/
theorem union_leaves_simple (reached : w.Reachable) (apart : first ≠ second)
    (held : first < w.graphs.length) {map : Option MapId}
    (identifies : ∀ m, map = some m → w.Identifies m second first)
    (straight : (w.graph first).hasLoops = false) (straight' : (w.graph second).hasLoops = false) :
    ∃ id event after,
      run (.union first second map { parallelFree := true, directed := false }) w =
        .ok { answer := .map id, event := some event } after ∧
      (after.graph first).isSimple = true := by
  have other := reached.wellFormed second
  have points : (w.presetOf map).PointsInto (w.graph second) (w.graph first) :=
    presetOf_pointsInto fun m given => (identifies m given).points
  have separates : (w.presetOf map).Separates (w.graph second).nodes := by
    cases map with
    | some m => exact (identifies m rfl).separates
    | none =>
      intro a _ b _ value set
      cases set
  obtain ⟨id, event, after, ran, _, _, merged⟩ := union_leaves reached apart held
    (fun m given => (identifies m given).bound) (fun m given => (identifies m given).points)
    ⟨true, false⟩
  refine ⟨id, event, after, ran, ?_⟩
  rw [merged.graph_eq]
  apply isSimple_thinned
  apply hasLoops_united other straight straight'
  intro a inside b inside' same
  exact Assignment.placeFrom_inj (reached.wellFormed first) points separates
    (fun _ listed bare => points.unset_of_target? listed bare) inside inside' same

/-! ## Intersections -/

/-- All graphs of a workspace lose edges at most. -/
def Loses (w v : Workspace) : Prop := ∀ id, (w.graph id).Loses (v.graph id)

instance : IsPreorder Workspace Loses where
  refl w id := refl (w.graph id)
  trans _ _ _ earlier later id := List.Sublist.trans (later id) (earlier id)

/-- The command for an intersection, whatever it is given and wherever it stops, takes edges away
only. -/
theorem intersection_command_loses (first second : GraphId) (m : MapId) :
    Keeps Loses (intersection first second m) := by
  have onGraph_loses : ∀ (second : Operand) (values : Assignment),
      Keeps Loses (onGraph first (Graph.intersection second values)) := by
    intro second values
    refine keeps_within (Graph.intersection_loses second values) fun w g loses id => ?_
    rw [graph_setGraph]
    split
    · rename_i here
      exact here.1 ▸ loses
    · exact refl (w.graph id)
  exact keeps_bind (keeps_bind keeps_get fun _ => keeps_ite (keeps_pure ()) (keeps_throw _)) fun _ =>
    keeps_bind keeps_get fun _ =>
      keeps_bind (onGraph_loses _ _) fun _ => keeps_pure _

theorem intersection_leaves_simple (w : Workspace) (second : GraphId) (m : MapId)
    (simple : (w.graph first).isSimple = true) :
    ((w.step (.intersection first second m)).graph first).isSimple = true :=
  isSimple_of_sublist simple (intersection_command_loses first second m w first)

/-! ## Products -/

variable {kind : Datum} {root : Option NodeId} {product : Product} {destination : GraphId}

/-- A product of simple graphs succeeds, also into one of them. It is simple, or a co-normal product
that joins by coordinates; if its destination is neither factor, all pairs have nodes. -/
theorem product_leaves_simple (reached : w.Reachable)
    (asked : Product.ofRequest kind root = .ok product)
    (rooted : product.requireRoot (w.graph second) = .ok ())
    (held : destination < w.graphs.length) {grid : Option GridId}
    (present : ∀ id, grid = some id → id < w.grids.length)
    (simple : (w.graph first).isSimple = true) (simple' : (w.graph second).isSimple = true) :
    ∃ event after id,
      run (.product kind root first second destination grid) w =
        .ok { answer := .grid id, event := some event } after ∧
      (product ≠ .coNormal → (after.graph destination).isSimple = true) ∧
      (product = .coNormal → Product.JoinsByCoordinates (w.graph first) (w.graph second)
        (after.graph destination) (after.grid id)) ∧
      (destination ≠ first → destination ≠ second →
        ∀ pair ∈ pairsOf (w.graph first).nodes (w.graph second).nodes,
          ∃ node ∈ (after.graph destination).nodes,
            (after.grid id).node? pair.1 pair.2 = some node) := by
  by_cases aliased : destination = first ∨ destination = second
  · obtain ⟨after, id, ran, _, emptied, blank, _⟩ :=
      product_into_factor asked rooted aliased held present
    refine ⟨_, after, id, ran, ?_, ?_, ?_⟩
    · intro _
      rw [emptied]
      rfl
    · intro _
      rw [emptied, blank]
      refine ⟨rfl, ?_⟩
      intro pair _ target _ source sink starts
      cases starts
    · intro apart away
      exact absurd aliased (not_or.mpr ⟨apart, away⟩)
  · obtain ⟨apart, away⟩ := not_or.mp aliased
    obtain ⟨event, after, id, ran, built, _⟩ :=
      product_run reached asked rooted apart away held present
    refine ⟨event, after, id, ran, ?_, ?_, ?_⟩
    · intro plain
      exact built.isSimple_of_times_le (Product.times_le_one_of_isSimple plain simple simple')
    · rintro rfl
      exact built.joinsByCoordinates simple simple'
    · intro _ _ pair listed
      obtain ⟨row, column⟩ := mem_pairsOf.mp listed
      exact ⟨_, built.node_mem listed, built.placed _ row _ column⟩

/-- In every workspace that commands lead to, products of two simple graphs succeed and are simple,
but for the co-normal product: that has no loops, and joins two nodes of its grid once for each
coordinate in which they are adjacent. Undirected complements of graphs without loops succeed and
are simple, and so are joins, and unions without parallel edges, of two different graphs without
loops under identifications that are distinct. An intersection leaves a simple graph simple whatever
it is given, and succeeds if it is given another graph and identifications with its nodes. -/
theorem simple_graphs_closed (reached : w.Reachable) :
    (∀ kind root product first second destination grid,
      Product.ofRequest kind root = .ok product → product.requireRoot (w.graph second) = .ok () →
      destination < w.graphs.length → (∀ id, grid = some id → id < w.grids.length) →
      (w.graph first).isSimple = true → (w.graph second).isSimple = true →
      ∃ event after id,
        run (.product kind root first second destination grid) w =
          .ok { answer := .grid id, event := some event } after ∧
        (product ≠ .coNormal → (after.graph destination).isSimple = true) ∧
        (product = .coNormal → Product.JoinsByCoordinates (w.graph first) (w.graph second)
          (after.graph destination) (after.grid id)) ∧
        (destination ≠ first → destination ≠ second →
          ∀ pair ∈ pairsOf (w.graph first).nodes (w.graph second).nodes,
            ∃ node ∈ (after.graph destination).nodes,
              (after.grid id).node? pair.1 pair.2 = some node)) ∧
    (∀ id < w.graphs.length, (w.graph id).hasLoops = false →
      ∃ event after,
        run (.complement id { directional := false, allowSelfLoops := false }) w =
          .ok { answer := .done, event := some event } after ∧
        (after.graph id).isSimple = true) ∧
    (∀ first second, first ≠ second → first < w.graphs.length →
      (w.graph first).hasLoops = false → (w.graph second).hasLoops = false →
      (∀ m, w.Identifies m second first →
        ∃ event after,
          run (.join first second m) w = .ok { answer := .map m, event := some event } after ∧
          (after.graph first).isSimple = true) ∧
      ∀ map, (∀ m, map = some m → w.Identifies m second first) →
        ∃ id event after,
          run (.union first second map { parallelFree := true, directed := false }) w =
            .ok { answer := .map id, event := some event } after ∧
          (after.graph first).isSimple = true) ∧
    ∀ first second m, (w.graph first).isSimple = true →
      ((w.step (.intersection first second m)).graph first).isSimple = true ∧
      (first ≠ second → w.isBoundTo m first = true →
        (w.map m).values.PointsInto (w.graph first) (w.graph second) →
        ∃ event after, run (.intersection first second m) w =
          .ok { answer := .done, event := some event } after) := by
  refine ⟨?_, ?_, ?_, ?_⟩
  · intro kind root product first second destination grid asked rooted held present simple simple'
    exact product_leaves_simple reached asked rooted held present simple simple'
  · intro id held straight
    exact complement_leaves_simple reached held straight
  · intro first second apart held straight straight'
    constructor
    · intro m identifies
      exact join_leaves_simple reached apart held identifies straight straight'
    · intro map identifies
      exact union_leaves_simple reached apart held identifies straight straight'
  · intro first second m simple
    refine ⟨intersection_leaves_simple w second m simple, ?_⟩
    intro apart bound points
    exact ⟨_, _, intersection_command apart bound
      (Graph.intersection_run (reached.wellFormed first) points)⟩

/-- Two simple factors, a graph with parallel edges, identifications of the nodes of the second
factor that are distinct and of those of the first that are not. -/
def simpleAndParallel : List Command :=
  simpleFactors ++ [.copy 0, .newEdge 3 1 2, .newMap (some 1), .write 0 0 (some (.int 3)),
    .write 0 2 (some (.int 1)), .newMap (some 0), .write 1 1 (some (.int 2)),
    .write 1 2 (some (.int 0)), .write 1 3 (some (.int 2))]

theorem simple_graphs_closed_simpleAndParallel :
    Reachable (runAll {} simpleAndParallel) ∧
    ((runAll {} simpleAndParallel).graph 0).isSimple = true ∧
    ((runAll {} simpleAndParallel).graph 1).isSimple = true ∧
    ((runAll {} simpleAndParallel).graph 3).isSimple = false ∧
    ((runAll {} simpleAndParallel).graph 3).hasLoops = false ∧
    (runAll {} simpleAndParallel).Identifies 0 1 3 ∧
    (∃ event after id,
      run (.product (.text "rooted") (some 2) 0 1 2 none) (runAll {} simpleAndParallel) =
        .ok { answer := .grid id, event := some event } after ∧
      (after.graph 2).isSimple = true) ∧
    (∃ event after id,
      run (.product (.text "co_normal") none 0 1 2 none) (runAll {} simpleAndParallel) =
        .ok { answer := .grid id, event := some event } after ∧
      (after.graph 2).hasLoops = false ∧
      ∃ source ∈ (after.graph 2).nodes, ∃ sink ∈ (after.graph 2).nodes,
        (after.grid id).node? 1 0 = some source ∧ (after.grid id).node? 2 2 = some sink ∧
        (after.graph 2).edges.countP (fun e => e.joins source sink) = 2) ∧
    (∃ event after,
      run (.complement 3 {}) (runAll {} simpleAndParallel) =
        .ok { answer := .done, event := some event } after ∧
      (after.graph 3).isSimple = true) ∧
    (∃ event after,
      run (.join 3 1 0) (runAll {} simpleAndParallel) =
        .ok { answer := .map 0, event := some event } after ∧
      (after.graph 3).isSimple = true) ∧
    (∃ id event after,
      run (.union 3 1 (some 0) ⟨true, false⟩) (runAll {} simpleAndParallel) =
        .ok { answer := .map id, event := some event } after ∧
      (after.graph 3).isSimple = true) ∧
    (((runAll {} simpleAndParallel).step (.intersection 0 1 1)).graph 0).isSimple = true ∧
    ∃ event after,
      run (.intersection 0 1 1) (runAll {} simpleAndParallel) =
        .ok { answer := .done, event := some event } after := by
  have reached : Reachable (runAll {} simpleAndParallel) :=
    reachable_runAll .empty (by simp [simpleAndParallel, simpleFactors, Command.Proper])
  have simple : ((runAll {} simpleAndParallel).graph 0).isSimple = true := by decide +kernel
  have simple' : ((runAll {} simpleAndParallel).graph 1).isSimple = true := by decide +kernel
  have parallel : ((runAll {} simpleAndParallel).graph 3).isSimple = false := by decide +kernel
  have straight : ((runAll {} simpleAndParallel).graph 3).hasLoops = false := by decide +kernel
  have identifies : (runAll {} simpleAndParallel).Identifies 0 1 3 := by decide +kernel
  have absent : ∀ id, (none : Option GridId) = some id →
      id < (runAll {} simpleAndParallel).grids.length := fun _ given => by cases given
  have held : 2 < (runAll {} simpleAndParallel).graphs.length := by decide +kernel
  have rooted : (Product.rooted 2).requireRoot ((runAll {} simpleAndParallel).graph 1) = .ok () :=
    Product.requireRoot_rooted.mpr (by decide +kernel)
  have start : (1, 0) ∈ pairsOf ((runAll {} simpleAndParallel).graph 0).nodes
      ((runAll {} simpleAndParallel).graph 1).nodes := by decide +kernel
  have goal : (2, 2) ∈ pairsOf ((runAll {} simpleAndParallel).graph 0).nodes
      ((runAll {} simpleAndParallel).graph 1).nodes := by decide +kernel
  obtain ⟨products, complements, merges, intersections⟩ := simple_graphs_closed reached
  obtain ⟨joins, unions⟩ := merges 3 1 (by decide) (by decide +kernel) straight
    (hasLoops_of_isSimple simple')
  refine ⟨reached, simple, simple', parallel, straight, identifies, ?_, ?_,
    complements 3 (by decide +kernel) straight, joins 0 identifies, unions (some 0) ?_,
    (intersections 0 1 1 simple).1,
    (intersections 0 1 1 simple).2 (by decide) (by decide +kernel) (by decide +kernel)⟩
  · obtain ⟨event, after, id, ran, plain, _⟩ := products (.text "rooted") (some 2) (.rooted 2) 0 1 2
      none rfl rooted held absent simple simple'
    exact ⟨event, after, id, ran, plain (by decide)⟩
  · obtain ⟨event, after, id, ran, _, joined, placed⟩ := products (.text "co_normal") none .coNormal
      0 1 2 none rfl rfl held absent simple simple'
    have byCoordinates := joined rfl
    obtain ⟨source, drawn, starts⟩ := placed (by decide) (by decide) _ start
    obtain ⟨sink, drawn', ends⟩ := placed (by decide) (by decide) _ goal
    refine ⟨event, after, id, ran, byCoordinates.straight, source, drawn, sink, drawn', starts,
      ends, ?_⟩
    rw [byCoordinates.counted _ start _ goal source sink starts ends]
    decide +kernel
  · intro m given
    cases given
    exact identifies

end Multigraph.Workspace
