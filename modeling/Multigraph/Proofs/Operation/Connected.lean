import Multigraph.Proofs.Graph.Connected
import Multigraph.Proofs.Operation.Command

/-!
What the operations do to the components of a graph. A disjoint union has the components of both
graphs (`componentCount_withCopy`), a join of graphs with nodes has one (`Joins.componentCount_eq`),
and so has the complement of a graph that had more than one (`componentCount_complemented`).
Removing parallel edges keeps them (`componentCount_firsts`).
-/
namespace Multigraph

namespace Graph

variable {g h : Graph} {u v : NodeId}

/-! ## Disjoint union -/

/-- The first graph stands in a disjoint union. -/
theorem part_old (wf : g.WellFormed) (other : h.WellFormed) : Part id g (g.withCopy h) where
  mem a held := (mem_nodes_withCopy other).mpr (.inl held)
  distinct _ _ _ _ same := same
  adjacent_iff a held v := by
    have alike : (g.withCopy h).adjacent a v = g.adjacent a v :=
      adjacent_congr (multiplicity_withCopy_old wf other (.inl held))
        (multiplicity_withCopy_old wf other (.inr held))
    rw [id, alike]
    constructor
    · intro joined
      exact ⟨v, (mem_of_adjacent wf joined).2, rfl, joined⟩
    · rintro ⟨b, _, rfl, joined⟩
      exact joined

/-- So does the second, as its copy. -/
theorem part_copy (wf : g.WellFormed) (other : h.WellFormed) :
    Part (handleOf g.nextNode h.nodes) h (g.withCopy h) where
  mem a held := (mem_nodes_withCopy other).mpr (.inr ⟨a, held, rfl⟩)
  distinct _ held _ _ same := handleOf_inj held same
  adjacent_iff a held v := by
    have alike : ∀ b, (g.withCopy h).adjacent (handleOf g.nextNode h.nodes a)
        (handleOf g.nextNode h.nodes b) = h.adjacent a b := fun b =>
      adjacent_congr (multiplicity_withCopy_copies wf other a b)
        (multiplicity_withCopy_copies wf other b a)
    constructor
    · intro joined
      have inside := (mem_of_adjacent (withCopy_wellFormed wf other) joined).2
      rcases (mem_nodes_withCopy other).mp inside with old | ⟨b, member, rfl⟩
      -- No edge of the first graph is at a copy.
      · rw [adjacent_congr (multiplicity_withCopy_old wf other (.inr old))
          (multiplicity_withCopy_old wf other (.inl old))] at joined
        exact absurd (mem_of_adjacent wf joined).1 (copy_not_mem wf a)
      · exact ⟨b, member, rfl, alike b ▸ joined⟩
    · rintro ⟨b, _, rfl, joined⟩
      rw [alike b]
      exact joined

theorem componentCount_withCopy (wf : g.WellFormed) (other : h.WellFormed) :
    (g.withCopy h).componentCount = g.componentCount + h.componentCount := by
  refine componentCount_eq_add (withCopy_wellFormed wf other) (part_old wf other)
    (part_copy wf other) wf other (fun u held => ?_) fun u old b _ same => ?_
  · exact ((mem_nodes_withCopy other).mp held).imp (fun old => ⟨u, old, rfl⟩) id
  · rw [id] at same
    exact copy_not_mem wf b (same ▸ old)

/-! ## Join -/

/-- In a join an old node hangs together with every node of the second graph: it is joined to the
place of that node, or is the place. -/
theorem Joins.connected {first second after : Graph} {values : Assignment} {place : NodeId → NodeId}
    (joins : Joins first second values place after) {n node : NodeId} (old : n ∈ first.nodes)
    (member : node ∈ second.nodes) : after.Connected n (place node) := by
  by_cases same : n = place node
  · rw [← same]
    exact .here n
  · have once := joins.joined_once s(n, place node)
    rw [if_pos (.inr (.inr ⟨n, old, node, member, same, rfl⟩))] at once
    obtain ⟨e, kept, ends⟩ := List.countP_pos_iff.mp (once ▸ Nat.one_pos)
    exact .of_adjacent (List.any_eq_true.mpr
      ⟨e, kept, Edge.joins_iff_pair.mpr (of_decide_eq_true ends)⟩)

/-- A join of graphs that have nodes has one component. -/
theorem Joins.componentCount_eq {first second after : Graph} {values : Assignment}
    {place : NodeId → NodeId} (joins : Joins first second values place after)
    (wf : after.WellFormed) (some_old : first.nodes ≠ []) (some_other : second.nodes ≠ []) :
    after.componentCount = 1 := by
  obtain ⟨n, old⟩ := List.exists_mem_of_ne_nil _ some_old
  obtain ⟨node, member⟩ := List.exists_mem_of_ne_nil _ some_other
  have held : n ∈ after.nodes := joins.nodes_eq ▸ List.mem_append_left _ old
  refine componentCount_eq_one wf held fun u inside => ?_
  rw [joins.nodes_eq] at inside
  rcases List.mem_append.mp inside with earlier | new
  -- All old nodes hang together through one node of the second graph.
  · exact (joins.connected old member).trans (joins.connected earlier member).symm
  · obtain ⟨other, unset, rfl⟩ := List.mem_map.mp new
    exact joins.connected old (List.mem_filter.mp unset).1

/-! ## Complement -/

/-- Nodes that do not hang together are joined in the complement. -/
theorem connected_complemented (wf : g.WellFormed) (policy : ComplementPolicy) (held : u ∈ g.nodes)
    (other : v ∈ g.nodes) (split : ¬ g.Connected u v) : (complemented policy g).Connected u v := by
  have distinct : u ≠ v := fun same => split (same ▸ .here u)
  have apart : g.adjacent u v = false :=
    Bool.eq_false_iff.mpr fun joined => split (.of_adjacent joined)
  exact .of_adjacent (adjacent_complemented_of_apart wf policy distinct held other apart)

/-- The complement of a graph with more than one component has one, under every policy. -/
theorem componentCount_complemented (wf : g.WellFormed) (policy : ComplementPolicy)
    (two : 2 ≤ g.componentCount) : (complemented policy g).componentCount = 1 := by
  obtain ⟨u, held, v, other, split⟩ := exists_not_connected wf two
  refine componentCount_eq_one (complemented_wellFormed wf policy) held fun n member => ?_
  by_cases near : g.Connected u n
  -- A node that hung together with the first is reached through the second.
  · have far : ¬ g.Connected v n := fun walk => split (near.trans walk.symm)
    exact (connected_complemented wf policy held other split).trans
      (connected_complemented wf policy other member far)
  · exact connected_complemented wf policy held member near

/-! ## Parallel edges -/

theorem componentCount_firsts (wf : g.WellFormed) (directed : Bool) :
    ({ g with edges := firsts directed [] g.edges } : Graph).componentCount =
      g.componentCount := by
  have removed := (removeParallel_changes directed).reached
    (removeParallel_run wf.ids_nodup directed)
  exact componentCount_congr wf (removed.wellFormed wf) rfl (adjacent_firsts directed g)

end Graph

namespace Workspace

/-- In every workspace that commands lead to, the connected components of a graph are the classes of
nodes that hang together, and the operations that follow succeed; here the components are counted in
any way that counts these classes. A disjoint union has the components of both graphs. A join of two
graphs with nodes has one component, whatever nodes of the first its correspondence identifies with
nodes of the second. The complement of a graph with two or more components has one, under every
policy. Removing parallel edges, by direction or not, leaves the number of components as it is. -/
theorem connectivity_laws {w : Workspace} (reached : w.Reachable) :
    (∀ id, (w.graph id).componentCount = Nat.card (w.graph id).Component) ∧
    ∀ count : Graph → Nat, (∀ g : Graph, g.WellFormed → count g = Nat.card g.Component) →
      (∀ first second, first < w.graphs.length →
        ∃ after, run (.disjointUnion first second) w =
            .ok { answer := .map w.maps.length, event := none } after ∧
          count (after.graph first) = count (w.graph first) + count (w.graph second)) ∧
      (∀ first second m, first ≠ second → first < w.graphs.length →
        w.isBoundTo m second = true →
        (w.map m).values.PointsInto (w.graph second) (w.graph first) →
        (w.graph first).nodes ≠ [] → (w.graph second).nodes ≠ [] →
        ∃ event after, run (.join first second m) w =
            .ok { answer := .map m, event := some event } after ∧
          count (after.graph first) = 1) ∧
      (∀ id policy, id < w.graphs.length → 2 ≤ count (w.graph id) →
        ∃ event after, run (.complement id policy) w =
            .ok { answer := .done, event := some event } after ∧
          count (after.graph id) = 1) ∧
      ∀ id directed, id < w.graphs.length →
        ∃ removed after, run (.removeParallel id directed) w =
            .ok { answer := .count removed, event := none } after ∧
          count (after.graph id) = count (w.graph id) := by
  refine ⟨fun id => Graph.componentCount_eq (reached.wellFormed id), fun count counts => ?_⟩
  have agrees : ∀ {v : Workspace}, v.Reachable → ∀ id,
      count (v.graph id) = (v.graph id).componentCount := fun left id =>
    (counts _ (left.wellFormed id)).trans (Graph.componentCount_eq (left.wellFormed id)).symm
  refine ⟨?_, ?_, ?_, ?_⟩
  · intro first second held
    obtain ⟨after, ran, left, replaced⟩ := disjointUnion_command reached held second
    refine ⟨after, ran, ?_⟩
    rw [agrees left, agrees reached, agrees reached, replaced.graph_eq,
      Graph.componentCount_withCopy (reached.wellFormed first) (reached.wellFormed second)]
  · intro first second m apart held bound valid some_old some_other
    obtain ⟨event, after, joined, ran, left, merged, joins⟩ :=
      join_leaves reached apart held bound valid
    rw [← merged.graph_eq] at joins
    refine ⟨event, after, ran, ?_⟩
    rw [agrees left]
    exact joins.componentCount_eq (left.wellFormed first) some_old some_other
  · intro id policy held two
    obtain ⟨event, after, ran, left, replaced⟩ := complement_command reached held policy
    refine ⟨event, after, ran, ?_⟩
    rw [agrees reached] at two
    rw [agrees left, replaced.graph_eq,
      Graph.componentCount_complemented (reached.wellFormed id) policy two]
  · intro id directed held
    obtain ⟨removed, after, ran, left, replaced⟩ := removeParallel_command reached held directed
    refine ⟨removed, after, ran, ?_⟩
    rw [agrees left, agrees reached, replaced.graph_eq,
      Graph.componentCount_firsts (reached.wellFormed id)]

/-- Two graphs of two components each, with edges in both directions, a loop and a gap in the
handles, and a correspondence that identifies all nodes of the second with one node of the first. -/
def islands : List Command :=
  [.newGraph, .newNode 0, .newNode 0, .newNode 0, .newNode 0, .deleteNode 0 1, .newEdge 0 0 2,
    .newEdge 0 2 0, .newEdge 0 3 3, .newGraph, .newNode 1, .newNode 1, .newNode 1, .newEdge 1 1 0,
    .newMap (some 1), .write 0 0 (some (.int 2)), .write 0 1 (some (.int 2)),
    .write 0 2 (some (.int 2))]

theorem connectivity_laws_islands :
    Reachable (runAll {} islands) ∧ Nat.card ((runAll {} islands).graph 0).Component = 2 ∧
    (∃ after, run (.disjointUnion 0 1) (runAll {} islands) =
        .ok { answer := .map 1, event := none } after ∧ (after.graph 0).componentCount = 4) ∧
    (∃ event after, run (.join 0 1 0) (runAll {} islands) =
        .ok { answer := .map 0, event := some event } after ∧
      (after.graph 0).componentCount = 1) ∧
    (∃ event after, run (.complement 0 ⟨false, true⟩) (runAll {} islands) =
        .ok { answer := .done, event := some event } after ∧
      (after.graph 0).componentCount = 1) ∧
    ∃ count after, run (.removeParallel 0 false) (runAll {} islands) =
        .ok { answer := .count count, event := none } after ∧
      (after.graph 0).componentCount = 2 := by
  have reached : Reachable (runAll {} islands) :=
    reachable_runAll .empty (by simp [islands, Command.Proper])
  obtain ⟨classes, laws⟩ := connectivity_laws reached
  obtain ⟨unions, joins, complements, removals⟩ :=
    laws Graph.componentCount fun _ wf => Graph.componentCount_eq wf
  have held : 0 < (runAll {} islands).graphs.length := by decide
  have two : ((runAll {} islands).graph 0).componentCount = 2 := by decide
  have two' : ((runAll {} islands).graph 1).componentCount = 2 := by decide
  refine ⟨reached, (classes 0).symm.trans two, ?_, ?_, ?_, ?_⟩
  · obtain ⟨after, ran, sum⟩ := unions 0 1 held
    exact ⟨after, ran, by rw [sum, two, two']⟩
  · exact joins 0 1 0 (by decide) held (by decide) (by decide) (by decide) (by decide)
  · exact complements 0 ⟨false, true⟩ held (Nat.le_of_eq two.symm)
  · obtain ⟨count, after, ran, same⟩ := removals 0 false held
    exact ⟨count, after, ran, same.trans two⟩

end Workspace

end Multigraph
