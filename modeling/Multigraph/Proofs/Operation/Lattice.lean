import Multigraph.Proofs.Operation.Command
import Multigraph.Proofs.Operation.Intersection

/-!
Union, intersection and complement as the operations of a lattice. They fit together because all
three go by adjacency, whatever the direction of the edges. Under an identity an intersection keeps
the edges whose ends are adjacent in the other graph (`intersected_fixed`), and a union joins the
nodes that either graph joins (`adjacent_united_fixed`). So a graph and its complement unite to a
graph in which all pairs are joined, and have no more than the loops in common; and what a union has
added does not come back in an intersection (`intersected_united`).
-/
namespace Multigraph

open Multigraph.Action

namespace Assignment

/-- Values that take some nodes to themselves. -/
def Fixes (values : Assignment) (nodes : List NodeId) : Prop :=
  ∀ node ∈ nodes, values.get? node = some (.int node)

instance (values : Assignment) (nodes : List NodeId) : Decidable (values.Fixes nodes) :=
  inferInstanceAs (Decidable (∀ node ∈ nodes, values.get? node = some (.int node)))

variable {values : Assignment} {g h : Graph} {node : NodeId}

theorem Fixes.target?_eq {nodes : List NodeId} (fixes : values.Fixes nodes) (held : node ∈ nodes) :
    values.target? node = some node := target?_eq_some.mpr (fixes node held)

theorem Fixes.pointsInto (fixes : values.Fixes g.nodes) (inside : ∀ node ∈ g.nodes, node ∈ h.nodes) :
    values.PointsInto g h := by
  intro node held value set
  rw [fixes node held] at set
  exact ⟨node, inside node held, (Option.some.inj set).symm⟩

theorem Fixes.unsetNodes_eq (fixes : values.Fixes g.nodes) : values.unsetNodes g = [] := by
  apply List.filter_eq_nil_iff.mpr
  intro node held
  simp [fixes node held]

/-- A node that a union is told to identify with itself stays where it is. -/
theorem Fixes.unionPlace_eq (fixes : values.Fixes h.nodes) (counter : NodeId)
    (held : node ∈ h.nodes) : values.unionPlace counter h node = node :=
  Graph.placeFrom_set (fixes.target?_eq held)

end Assignment

namespace Graph

variable {g h : Graph} {values : Assignment} {u v : NodeId}

/-! ## Under an identity -/

/-- An intersection under an identity keeps all nodes, and the edges whose ends the other graph
joins. -/
theorem intersected_fixed (wf : g.WellFormed) (fixes : values.Fixes g.nodes) (h : Graph) :
    intersected h values g =
      { g with edges := g.edges.filter fun e => h.adjacent e.source e.target } := by
  have nodes : (g.nodes.filter fun node => (values.get? node).isSome) = g.nodes := by
    apply List.filter_eq_self.mpr
    intro node held
    rw [fixes node held]
    rfl
  have edges : g.edges.filter (common h values) =
      g.edges.filter fun e => h.adjacent e.source e.target := by
    apply List.filter_congr
    intro e member
    obtain ⟨source, target⟩ := wf.ends_mem e member
    rw [common, fixes.target?_eq source, fixes.target?_eq target]
  rw [intersected, nodes, edges]

/-- A union under an identity has no new nodes. -/
theorem nodes_united_fixed (fixes : values.Fixes h.nodes) : (united g h values).nodes = g.nodes := by
  rw [united, nodes_withEdges, fixes.unsetNodes_eq, List.length_nil, withNodes_zero]

/-- A union under an identity joins what either graph joins. -/
theorem adjacent_united_fixed (other : h.WellFormed) (fixes : values.Fixes h.nodes) :
    (united g h values).adjacent u v = (g.adjacent u v || h.adjacent u v) := by
  have listed : h.edges.map (Edge.endsUnder (values.unionPlace g.nextNode h)) =
      h.edges.map Edge.ends := by
    apply List.map_congr_left
    intro e member
    obtain ⟨source, target⟩ := other.ends_mem e member
    rw [Edge.endsUnder, fixes.unionPlace_eq _ source, fixes.unionPlace_eq _ target, Edge.ends]
  have drawn : (Edge.numbered g.nextEdge (h.edges.map Edge.ends)).any (fun e => e.joins u v) =
      h.edges.any fun e => e.joins u v := by
    rw [Bool.eq_iff_iff, List.any_eq_true, List.any_eq_true]
    simp only [Edge.joins_iff_pair]
    rw [Edge.exists_pair_iff (List.Perm.of_eq (Edge.map_ends_numbered _ _)),
      Edge.exists_pair_iff (List.Perm.refl _)]
  rw [adjacent, united, edges_withEdges, listed, List.any_append, edges_withNodes]
  exact congrArg (_ || ·) drawn

/-! ## Complements -/

/-- United with its complement a graph has one edge between any two nodes. -/
theorem united_complemented (wf : g.WellFormed) (fixes : values.Fixes g.nodes) (held : u ∈ g.nodes)
    (other : v ∈ g.nodes) (distinct : u ≠ v) :
    (thinned ⟨true, false⟩ (united g (complemented {} g) values)).edges.countP
      (fun e => e.joins u v) = 1 := by
  have joined : (united g (complemented {} g) values).adjacent u v = true := by
    rw [adjacent_united_fixed (complemented_wellFormed wf {}) fixes,
      adjacent_complemented wf distinct held other, Bool.or_not_self]
  exact (countP_joins_firsts _ u v).trans (if_pos joined)

/-- A graph has its loops in common with its complement, and no other edges. -/
theorem intersected_complemented (wf : g.WellFormed) (fixes : values.Fixes g.nodes) :
    intersected (complemented {} g) values g = { g with edges := g.edges.filter Edge.isLoop } := by
  have chosen : (g.edges.filter fun e => (complemented {} g).adjacent e.source e.target) =
      g.edges.filter Edge.isLoop := by
    apply List.filter_congr
    intro e member
    obtain ⟨source, target⟩ := wf.ends_mem e member
    have joined := adjacent_of_mem member
    by_cases loop : e.source = e.target
    · have own : (complemented {} g).adjacent e.source e.target = g.adjacent e.source e.target := by
        rw [← loop]
        exact adjacent_congr (multiplicity_complemented_self wf _) (multiplicity_complemented_self wf _)
      rw [own, joined]
      exact (decide_eq_true loop).symm
    · rw [adjacent_complemented wf loop source target, joined]
      exact (decide_eq_false loop).symm
  rw [intersected_fixed wf fixes, chosen]

/-! ## Absorption -/

/-- What a union has added to a graph has gone when the graph is intersected with it. -/
theorem intersected_united (wf : g.WellFormed) (fixes : values.Fixes g.nodes) (h : Graph)
    (identified : Assignment) (policy : UnionPolicy) :
    intersected (thinned policy (united g h identified)) values g = g := by
  have all : (g.edges.filter fun e =>
      (thinned policy (united g h identified)).adjacent e.source e.target) = g.edges := by
    apply List.filter_eq_self.mpr
    intro e member
    rw [adjacent_thinned]
    exact adjacent_of_mem (List.mem_append_left _ member)
  rw [intersected_fixed wf fixes, all]

end Graph

namespace Workspace

variable {w v : Workspace} {g copy second : GraphId} {m n : MapId}

/-- A correspondence that is bound to a graph and takes each of its nodes to itself. -/
structure Identity (w : Workspace) (m : MapId) (g : GraphId) : Prop where
  bound : w.isBoundTo m g = true
  reads : ∀ node ∈ (w.graph g).nodes, w.readKey m node = .ok (some (.int node))

theorem Identity.fixes (identity : w.Identity m g) :
    (w.map m).values.Fixes (w.graph g).nodes := by
  intro node held
  have read := identity.reads node held
  rw [readKey_run identity.bound held] at read
  exact Except.ok.inj read

theorem identity_of_fixes (bound : w.isBoundTo m g = true)
    (fixes : (w.map m).values.Fixes (w.graph g).nodes) : w.Identity m g where
  bound := bound
  reads node held := by rw [readKey_run bound held, fixes node held]

/-- An identity does not notice that another graph is replaced by one with the same nodes. -/
theorem Identity.replaced (identity : w.Identity m g) {id : GraphId} {other : Graph}
    (replaced : w.Replaced id other v) (nodes_eq : (v.graph g).nodes = (w.graph g).nodes) :
    v.Identity m g := by
  obtain ⟨bound, map_eq⟩ := replaced.bound identity.bound
  apply identity_of_fixes bound
  rw [map_eq, nodes_eq]
  exact identity.fixes

/-- An identity on a graph is one still when another graph has been merged into a third, even if it
holds the identifications of the merging itself. -/
theorem Identity.merged (identity : w.Identity m g) {first : GraphId} (apart : g ≠ first)
    {map : Option MapId} (bound : ∀ n, map = some n → w.isBoundTo n second = true) {united : Graph}
    (merged : w.Merged first second united (map.getD w.maps.length)
      ((w.presetOf map).unionPlace (w.graph first).nextNode (w.graph second)) v) :
    v.Identity m g := by
  have still := merged.others g apart
  have present := present_of_isBoundTo identity.bound
  by_cases same : m = map.getD w.maps.length
  · cases map with
    | none => exact absurd same (Nat.ne_of_lt present)
    | some n =>
      subst same
      -- One correspondence is bound to one graph only.
      have here : (w.map m).graph? = some g := of_decide_eq_true identity.bound
      have there : (w.map m).graph? = some second := of_decide_eq_true (bound m rfl)
      obtain rfl : g = second := Option.some.inj (here.symm.trans there)
      refine ⟨merged.bound m g identity.bound, fun node held => ?_⟩
      rw [still] at held
      exact (merged.reads node held).trans
        (by rw [presetOf, identity.fixes.unionPlace_eq _ held])
  · apply identity_of_fixes (merged.bound m g identity.bound)
    rw [still, merged.map_eq m present same]
    exact identity.fixes

/-- The intersection under an identity keeps the edges whose ends the other graph joins. -/
theorem intersection_identity (reached : w.Reachable) (apart : g ≠ copy)
    (held : g < w.graphs.length) (identity : w.Identity m g)
    (inside : ∀ node ∈ (w.graph g).nodes, node ∈ (w.graph copy).nodes) :
    ∃ event after,
      run (.intersection g copy m) w = .ok { answer := .done, event := some event } after ∧
      after.graph g = Graph.intersected (w.graph copy) (w.map m).values (w.graph g) := by
  have ran := Graph.intersection_run (reached.wellFormed g) (identity.fixes.pointsInto inside)
  exact ⟨_, _, intersection_command apart identity.bound ran, (graph_setGraph w g g _).trans
    (if_pos ⟨rfl, held⟩)⟩

/-- The union of a graph with the complement of its copy joins any two nodes once. -/
theorem union_with_complement (reached : w.Reachable) (apart : g ≠ copy)
    (held : g < w.graphs.length) (held' : copy < w.graphs.length)
    (copied : w.graph copy = w.graph g) (identity : w.Identity n copy) :
    ∃ after, w.Transcript [(.complement copy {}, .done),
        (.union g copy (some n) ⟨true, false⟩, .map n)] after ∧
      (after.graph g).nodes = (w.graph g).nodes ∧
      ∀ u ∈ (w.graph g).nodes, ∀ v ∈ (w.graph g).nodes, u ≠ v →
        (after.graph g).edges.countP (fun e => e.joins u v) = 1 := by
  obtain ⟨_, v, turning, reached', turned⟩ := complement_command reached held' {}
  have still := turned.others g apart
  have same : v.graph copy = Graph.complemented {} (w.graph g) := copied ▸ turned.graph_eq
  have identity' := identity.replaced turned (by rw [turned.graph_eq, Graph.nodes_complemented])
  have fixes : (v.map n).values.Fixes (w.graph g).nodes := by
    have kept := identity'.fixes
    rwa [same] at kept
  have bound : ∀ id, some n = some id → v.isBoundTo id copy = true := by
    rintro _ ⟨⟩
    exact identity'.bound
  have points : ∀ id, some n = some id →
      (v.map id).values.PointsInto (v.graph copy) (v.graph g) := by
    rintro _ ⟨⟩
    apply identity'.fixes.pointsInto
    rw [same, still]
    exact fun _ inside => inside
  obtain ⟨_, _, after, uniting, rfl, _, merged⟩ :=
    union_leaves reached' apart (turned.length_eq ▸ held) bound points ⟨true, false⟩
  have left := merged.graph_eq
  rw [still, same] at left
  refine ⟨after, .cons turning (.cons uniting (.nil _)), ?_, fun u inside v other distinct => ?_⟩
  · rw [left, Graph.nodes_thinned]
    exact Graph.nodes_united_fixed fixes
  · rw [left]
    exact Graph.united_complemented (reached.wellFormed g) fixes inside other distinct

/-- The intersection of a graph with the complement of its copy leaves the loops. -/
theorem intersection_with_complement (reached : w.Reachable) (apart : g ≠ copy)
    (held : g < w.graphs.length) (held' : copy < w.graphs.length)
    (copied : w.graph copy = w.graph g) (identity : w.Identity m g) :
    ∃ after, w.Transcript [(.complement copy {}, .done), (.intersection g copy m, .done)] after ∧
      (after.graph g).nodes = (w.graph g).nodes ∧
      (after.graph g).edges = (w.graph g).edges.filter Edge.isLoop := by
  obtain ⟨_, v, turning, reached', turned⟩ := complement_command reached held' {}
  have still := turned.others g apart
  have same : v.graph copy = Graph.complemented {} (w.graph g) := copied ▸ turned.graph_eq
  have identity' := identity.replaced turned (congrArg Graph.nodes still)
  obtain ⟨_, after, meeting, left⟩ := intersection_identity reached' apart
    (turned.length_eq ▸ held) identity' (by
      rw [still, same]
      exact fun _ inside => inside)
  have fixes := identity'.fixes
  rw [still] at fixes
  rw [still, same, Graph.intersected_complemented (reached.wellFormed g) fixes] at left
  refine ⟨after, .cons turning (.cons meeting (.nil _)), ?_, ?_⟩
  · rw [left]
  · rw [left]

/-- The intersection of a graph with a union of its copy leaves the graph as it was. -/
theorem intersection_with_union (reached : w.Reachable) (apart : g ≠ copy)
    (held : g < w.graphs.length) (held' : copy < w.graphs.length)
    (copied : w.graph copy = w.graph g) (identity : w.Identity m g) {map : Option MapId}
    (elsewhere : copy ≠ second) (bound : ∀ id, map = some id → w.isBoundTo id second = true)
    (valid : ∀ id, map = some id →
      (w.map id).values.PointsInto (w.graph second) (w.graph copy)) (policy : UnionPolicy) :
    ∃ id after, w.Transcript [(.union copy second map policy, .map id),
        (.intersection g copy m, .done)] after ∧
      after.graph g = w.graph g := by
  obtain ⟨id, _, v, uniting, rfl, reached', merged⟩ :=
    union_leaves reached elsewhere held' bound valid policy
  have still := merged.others g apart
  have identity' := identity.merged apart bound merged
  obtain ⟨_, after, meeting, left⟩ := intersection_identity reached' apart
    (merged.length_eq ▸ held) identity' fun node inside => by
      rw [merged.graph_eq, Graph.nodes_thinned, copied]
      exact List.mem_append_left _ (still ▸ inside)
  have fixes := identity'.fixes
  rw [still] at fixes
  rw [still, merged.graph_eq, copied, Graph.intersected_united (reached.wellFormed g) fixes] at left
  exact ⟨_, after, .cons uniting (.cons meeting (.nil _)), left⟩

/-- In every workspace that commands lead to, let `copy` be a copy of a graph, and let two
correspondences take each node to itself, one bound to the graph and one to the copy. No command
fails. The union of the graph with the complement of its copy, without parallel edges, has the nodes
of the graph and one edge between any two of them. The intersection with that complement has its
nodes and its loops. And when the copy has been united with any graph, under any identifications
and any policy, the intersection with it leaves the graph as it was. -/
theorem lattice_laws (reached : w.Reachable) (apart : g ≠ copy) (held : g < w.graphs.length)
    (held' : copy < w.graphs.length) (copied : w.graph copy = w.graph g)
    (onCopy : w.Identity n copy) (onGraph : w.Identity m g) :
    (∃ after, w.Transcript [(.complement copy {}, .done),
          (.union g copy (some n) ⟨true, false⟩, .map n)] after ∧
        (after.graph g).nodes = (w.graph g).nodes ∧
        ∀ u ∈ (w.graph g).nodes, ∀ v ∈ (w.graph g).nodes, u ≠ v →
          (after.graph g).edges.countP (fun e => e.joins u v) = 1) ∧
    (∃ after, w.Transcript [(.complement copy {}, .done), (.intersection g copy m, .done)] after ∧
        (after.graph g).nodes = (w.graph g).nodes ∧
        (after.graph g).edges = (w.graph g).edges.filter Edge.isLoop) ∧
    ∀ (second : GraphId) (map : Option MapId) (policy : UnionPolicy), copy ≠ second →
      (∀ id, map = some id → w.isBoundTo id second = true) →
      (∀ id, map = some id → (w.map id).values.PointsInto (w.graph second) (w.graph copy)) →
      ∃ id after, w.Transcript [(.union copy second map policy, .map id),
          (.intersection g copy m, .done)] after ∧
        after.graph g = w.graph g :=
  ⟨union_with_complement reached apart held held' copied onCopy,
    intersection_with_complement reached apart held held' copied onGraph,
    fun _ _ policy elsewhere bound valid =>
      intersection_with_union reached apart held held' copied onGraph elsewhere bound valid policy⟩

/-- A graph with a gap in its handles, a loop and parallel edges in both directions, a copy of it,
a third graph, an identity on either copy, and a correspondence that identifies two nodes of the
third with one node. -/
def mirrored : List Command :=
  [.newGraph, .newNode 0, .newNode 0, .newNode 0, .newNode 0, .deleteNode 0 1, .newEdge 0 0 2,
    .newEdge 0 2 0, .newEdge 0 0 2, .newEdge 0 3 3, .copy 0, .newGraph, .newNode 2, .newNode 2,
    .newNode 2, .newEdge 2 0 2, .newEdge 2 1 0, .newMap (some 0),
    .writeAll 0 [(0, some (.int 0)), (2, some (.int 2)), (3, some (.int 3))], .newMap (some 1),
    .writeAll 1 [(0, some (.int 0)), (2, some (.int 2)), (3, some (.int 3))], .newMap (some 2),
    .writeAll 2 [(0, some (.int 3)), (1, some (.int 3))]]

theorem lattice_laws_mirrored :
    Reachable (runAll {} mirrored) ∧
    (runAll {} mirrored).graph 1 = (runAll {} mirrored).graph 0 ∧
    ((runAll {} mirrored).graph 0).nodes = [0, 2, 3] ∧
    (∃ after, (runAll {} mirrored).Transcript [(.complement 1 {}, .done),
          (.union 0 1 (some 1) ⟨true, false⟩, .map 1)] after ∧
        (after.graph 0).nodes = [0, 2, 3] ∧
        (after.graph 0).edges.countP (fun e => e.joins 0 2) = 1 ∧
        (after.graph 0).edges.countP (fun e => e.joins 0 3) = 1) ∧
    (∃ after, (runAll {} mirrored).Transcript [(.complement 1 {}, .done),
          (.intersection 0 1 0, .done)] after ∧
        (after.graph 0).edges = [⟨3, 3, 3⟩]) ∧
    ∃ id after, (runAll {} mirrored).Transcript [(.union 1 2 (some 2) ⟨true, true⟩, .map id),
          (.intersection 0 1 0, .done)] after ∧
        after.graph 0 = (runAll {} mirrored).graph 0 := by
  have reached : Reachable (runAll {} mirrored) :=
    reachable_runAll .empty (by simp [mirrored, Command.Proper])
  have copied : (runAll {} mirrored).graph 1 = (runAll {} mirrored).graph 0 := by decide +kernel
  have nodes : ((runAll {} mirrored).graph 0).nodes = [0, 2, 3] := by decide +kernel
  have bound : ∀ id, some 2 = some id → (runAll {} mirrored).isBoundTo id 2 = true := by
    intro id given
    cases given
    decide +kernel
  have valid : ∀ id, some 2 = some id → ((runAll {} mirrored).map id).values.PointsInto
      ((runAll {} mirrored).graph 2) ((runAll {} mirrored).graph 1) := by
    intro id given
    cases given
    decide +kernel
  have onGraph : (runAll {} mirrored).Identity 0 0 :=
    identity_of_fixes (by decide +kernel) (by decide +kernel)
  have onCopy : (runAll {} mirrored).Identity 1 1 :=
    identity_of_fixes (by decide +kernel) (by decide +kernel)
  obtain ⟨⟨after, made, same, once⟩, ⟨after', made', _, loops⟩, absorbs⟩ :=
    lattice_laws reached (by decide) (by decide +kernel) (by decide +kernel) copied onCopy onGraph
  rw [nodes] at once
  refine ⟨reached, copied, nodes, ⟨after, made, same.trans nodes, ?_, ?_⟩,
    ⟨after', made', loops.trans (by decide +kernel)⟩,
    absorbs 2 (some 2) ⟨true, true⟩ (by decide) bound valid⟩
  · exact once 0 (by decide) 2 (by decide) (by decide)
  · exact once 0 (by decide) 3 (by decide) (by decide)

end Workspace

end Multigraph
