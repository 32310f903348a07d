import Mathlib.Data.List.Sym
import Multigraph.Proofs.Operation.DisjointUnion
import Multigraph.Proofs.Operation.Merging
import Multigraph.Proofs.Operation.Recomplemented

/-!
The numbers that operations report. What a merge identifies it does not make anew, and what it
removes was there before, so the reported numbers account for all nodes and edges of the graphs
that went into it. A join draws an edge between every two nodes across, except between a node and
itself, which are as many as there are identifications (`length_crossPairs`). A complement removes
the edges that it exchanges and makes one for each pair without any (`length_missingPairs`).
-/
namespace Multigraph

open Multigraph.Action

namespace Assignment

/-- How many nodes of a graph are set. -/
def setCount (values : Assignment) (g : Graph) : Nat :=
  g.nodes.countP fun node => (values.get? node).isSome

theorem setCount_add_unset (values : Assignment) (g : Graph) :
    values.setCount g + (values.unsetNodes g).length = g.nodes.length := by
  rw [g.nodes.length_eq_countP_add_countP fun node => (values.get? node).isSome, setCount,
    unsetNodes, ← List.countP_eq_length_filter]
  exact congrArg _ (List.countP_congr fun node _ => by simp)

/-- Values that point into the other graph are all identifications. -/
theorem length_identifications {values : Assignment} {domain codomain : Graph}
    (valid : values.PointsInto domain codomain) :
    (values.identifications domain.nodes).length = values.setCount domain := by
  rw [identifications, List.length_filterMap_eq_countP, setCount]
  refine List.countP_congr fun node held => ?_
  simp [valid.isSome_target held]

end Assignment

namespace Graph

variable {first second : Graph} {values : Assignment}

/-! ## Union -/

/-- The numbers of a union account for all nodes and edges: the second graph has been united with
the first, which is `raw` when nothing is removed. -/
structure UnionCounts (policy : UnionPolicy) (values : Assignment) (first second raw after : Graph)
    (removed : Nat) : Prop where
  nodes : after.nodeCount + values.setCount second = first.nodeCount + second.nodeCount
  edges : after.edgeCount + removed = first.edgeCount + second.edgeCount
  removed_eq : removed = if policy.parallelFree then raw.parallelCount policy.directed else 0

theorem unionCounts (policy : UnionPolicy) (values : Assignment) (first second : Graph) :
    UnionCounts policy values first second (united first second values)
      (thinned policy (united first second values))
      (if policy.parallelFree then (united first second values).parallelCount policy.directed
        else 0) where
  nodes := by
    have parted := values.setCount_add_unset second
    rw [nodeCount, nodes_thinned, united, nodes_withEdges, withNodes, List.length_append,
      length_handlesFrom, nodeCount, nodeCount]
    omega
  edges := by
    have drawn : (united first second values).edges.length =
        first.edges.length + second.edges.length := by
      rw [united, edges_withEdges, List.length_append, Edge.length_numbered, List.length_map]
      rfl
    rw [edgeCount, edgeCount, edgeCount, ← drawn, thinned]
    split
    · exact length_firsts_add_repeated policy.directed [] _
    · rfl
  removed_eq := rfl

/-! ## Join -/

/-- Between nodes and places, every two are paired but those that are one. -/
theorem length_crossPairs {old : List NodeId} (distinct : old.Nodup) (nodes : List NodeId)
    (place : NodeId → NodeId) :
    (crossPairs old nodes place).length + nodes.countP (fun node => place node ∈ old) =
      old.length * nodes.length := by
  have row : ∀ node, (old.filter fun n => n ≠ place node).length +
      (if place node ∈ old then 1 else 0) = old.length := by
    intro node
    have parted := old.length_eq_countP_add_countP fun n => n == place node
    have once := distinct.count (a := place node)
    rw [List.count_eq_countP] at once
    rw [parted, once, ← List.countP_eq_length_filter, Nat.add_comm]
    simp
  induction nodes with
  | nil => rfl
  | cons node rest ih =>
    have split : crossPairs old (node :: rest) place =
        ((old.filter fun n => n ≠ place node).map fun n => (n, place node)) ++
          crossPairs old rest place := rfl
    have here := row node
    rw [split, List.length_append, List.length_map, List.countP_cons, List.length_cons,
      Nat.mul_succ, ← ih]
    simp only [decide_eq_true_eq]
    omega

/-- A node of the second graph is at an old node of the first exactly if it is set. -/
theorem placeFrom_mem_iff (wf : first.WellFormed) (valid : values.PointsInto second first)
    {node : NodeId} (held : node ∈ second.nodes) :
    values.placeFrom first.nextNode second.nodes node ∈ first.nodes ↔
      (values.get? node).isSome = true := by
  have set := valid.isSome_target held
  rw [← Option.not_isNone, ← set]
  cases target : values.target? node with
  | some image =>
    rw [placeFrom_set target]
    simp [valid.target_mem held target]
  | none =>
    rw [placeFrom_unset target]
    simp [copy_not_mem wf node]

/-- The numbers of a join account for all nodes and edges. -/
structure JoinCounts (values : Assignment) (first second after : Graph) (removed : Nat) : Prop where
  nodes : after.nodeCount + values.setCount second = first.nodeCount + second.nodeCount
  edges : after.edgeCount + removed + values.setCount second =
    first.edgeCount + second.edgeCount + first.nodeCount * second.nodeCount

theorem joinCounts (wf : first.WellFormed) (valid : values.PointsInto second first)
    {images : Table NodeId NodeId} {g : Graph}
    (held : Settled first second values second.nodes images g) :
    JoinCounts values first second
      { crossed first second values g with
        edges := firsts false [] (crossed first second values g).edges }
      ((crossed first second values g).parallelCount false) where
  nodes := by
    have parted := values.setCount_add_unset second
    have nodes : g.nodes.length = first.nodes.length + (values.unsetNodes second).length := by
      rw [held.nodes_all valid, List.length_append, List.length_map]
    rw [nodeCount, nodeCount, nodeCount, crossed, nodes_withEdges, nodes]
    omega
  edges := by
    obtain ⟨drawn, split, places⟩ := held.edges_split
    have copied : drawn.length = second.edges.length := by
      rw [← List.length_map Edge.ends, places.length_eq, List.length_map]
    have across := length_crossPairs wf.nodes_nodup second.nodes
      (values.placeFrom first.nextNode second.nodes)
    have identified : second.nodes.countP (fun node =>
        values.placeFrom first.nextNode second.nodes node ∈ first.nodes) =
          values.setCount second :=
      List.countP_congr fun node inside => by
        rw [decide_eq_true_eq, placeFrom_mem_iff wf valid inside]
    have kept := length_firsts_add_repeated false [] (crossed first second values g).edges
    have all : (crossed first second values g).edges.length = first.edges.length +
        second.edges.length + (crossPairs first.nodes second.nodes
          (values.placeFrom first.nextNode second.nodes)).length := by
      rw [crossed, edges_withEdges, List.length_append, Edge.length_numbered, split,
        List.length_append, copied]
    rw [edgeCount, edgeCount, edgeCount, nodeCount, nodeCount, parallelCount, parallelEdges, kept,
      all, ← across, identified]
    omega

/-! ## Intersection -/

/-- The numbers of an intersection account for all nodes, and for the edges between nodes that are
set. -/
structure IntersectionCounts (values : Assignment) (first after : Graph)
    (droppedNodes droppedEdges : Nat) : Prop where
  dropped : droppedNodes + values.setCount first = first.nodeCount
  nodes : after.nodeCount = values.setCount first
  edges : after.edgeCount + droppedEdges = first.edges.countP fun e =>
    (values.get? e.source).isSome && (values.get? e.target).isSome

theorem intersectionCounts (wf : first.WellFormed) (second : Graph) (values : Assignment) :
    IntersectionCounts values first (intersected second values first)
      (values.unsetNodes first).length
      ((first.withoutNodes (values.unsetNodes first)).edges.countP
        fun e => !common second values e) where
  dropped := by rw [nodeCount, ← values.setCount_add_unset first, Nat.add_comm]
  nodes := List.countP_eq_length_filter.symm
  edges := by
    have between : (first.withoutNodes (values.unsetNodes first)).edges.length =
        first.edges.countP fun e =>
          (values.get? e.source).isSome && (values.get? e.target).isSome := by
      rw [withoutNodes, ← List.countP_eq_length_filter]
      refine List.countP_congr fun e member => ?_
      obtain ⟨source, target⟩ := wf.ends_mem e member
      simp [Assignment.unsetNodes, source, target, Option.isSome_iff_ne_none]
    have parted := (first.withoutNodes (values.unsetNodes first)).edges.length_eq_countP_add_countP
      (common second values)
    have left : (intersected second values first).edges.length =
        (first.withoutNodes (values.unsetNodes first)).edges.countP (common second values) := by
      rw [← intersected_eq, List.countP_eq_length_filter]
    rw [edgeCount, left, ← between, parted]
    simp

/-! ## Complement -/

variable {g : Graph} {policy : ComplementPolicy}

/-- The number of pairs that a complement exchanges and that have no edge: ordered pairs of nodes if
direction counts, and unordered ones otherwise. -/
def openCount (policy : ComplementPolicy) (g : Graph) : Nat :=
  if policy.directional then
    (g.nodes ×ˢ g.nodes).countP fun pair =>
      eligible policy pair.1 pair.2 && ¬ ∃ e ∈ g.edges, e.ends = pair
  else
    g.nodes.sym2.countP fun pair =>
      (policy.allowSelfLoops || ¬ pair.IsDiag) && ¬ ∃ e ∈ g.edges, e.pair = pair

/-- With direction a pair is missing if it is exchanged and no edge has these ends. -/
theorem missing_directed_iff (directed : policy.directional = true) {u v : NodeId} :
    missing policy g u v = true ↔
      eligible policy u v = true ∧ ¬ ∃ e ∈ g.edges, e.ends = (u, v) := by
  rw [missing_iff, pairInScope_iff, pairCount_directed directed, multiplicity,
    List.countP_eq_zero]
  simp [directed, Edge.runs_eq]

/-- Without direction a pair is missing if it is exchanged and no edge joins it, seen from the
lesser node. -/
theorem missing_undirected_iff (undirected : policy.directional = false) {u v : NodeId} :
    missing policy g u v = true ↔ u ≤ v ∧
      (policy.allowSelfLoops = true ∨ ¬ s(u, v).IsDiag) ∧ ¬ ∃ e ∈ g.edges, e.pair = s(u, v) := by
  rw [missing_iff, pairInScope_iff, pairCount_undirected undirected, List.countP_eq_zero]
  simp [undirected, eligible, Edge.joins_iff_pair, and_assoc]

/-- A complement draws an edge for each pair that has none. -/
theorem length_missingPairs (wf : g.WellFormed) (policy : ComplementPolicy) :
    (missingPairs policy g g.nodes).length = openCount policy g := by
  have nodup := missingPairs_nodup wf policy
  rw [openCount]
  cases directional : policy.directional with
  | true =>
    rw [if_pos rfl, List.countP_eq_length_filter]
    refine List.Perm.length_eq ((List.perm_ext_iff_of_nodup nodup
      ((wf.nodes_nodup.product wf.nodes_nodup).filter _)).mpr fun (u, v) => ?_)
    rw [mem_missingPairs, missing_directed_iff directional, List.mem_filter, List.mem_product]
    simp [and_assoc]
  | false =>
    rw [if_neg (by simp), List.countP_eq_length_filter,
      ← List.length_map fun pair : NodeId × NodeId => s(pair.1, pair.2)]
    have distinct : ((missingPairs policy g g.nodes).map fun pair => s(pair.1, pair.2)).Nodup := by
      refine nodup.map_on fun (u, v) listed (u', v') listed' same => ?_
      have order := ((missing_undirected_iff directional).mp (mem_missingPairs.mp listed).2.2).1
      have order' := ((missing_undirected_iff directional).mp (mem_missingPairs.mp listed').2.2).1
      rw [Prod.mk.injEq]
      have ends := Sym2.eq_iff.mp same
      lia
    refine List.Perm.length_eq ((List.perm_ext_iff_of_nodup distinct
      (wf.nodes_nodup.sym2.filter _)).mpr fun pair => ?_)
    have ordered : ∃ u v : NodeId, u ≤ v ∧ pair = s(u, v) := by
      induction pair with | h u v =>
      rcases Int.le_total u v with order | order
      · exact ⟨u, v, order, rfl⟩
      · exact ⟨v, u, order, Sym2.eq_swap⟩
    obtain ⟨u, v, order, rfl⟩ := ordered
    rw [List.mem_filter, List.mk_mem_sym2_iff, List.mem_map]
    constructor
    · rintro ⟨⟨u', v'⟩, listed, same⟩
      obtain ⟨held, other, lacks⟩ := mem_missingPairs.mp listed
      obtain ⟨order', exchanged, bare⟩ := (missing_undirected_iff directional).mp lacks
      have both : u' = u ∧ v' = v := by
        have ends := Sym2.eq_iff.mp same
        lia
      obtain ⟨rfl, rfl⟩ := both
      refine ⟨⟨held, other⟩, ?_⟩
      rw [Bool.and_eq_true, Bool.or_eq_true, decide_eq_true_eq, decide_eq_true_eq]
      exact ⟨exchanged, bare⟩
    · rintro ⟨⟨held, other⟩, chosen⟩
      refine ⟨(u, v), mem_missingPairs.mpr ⟨held, other, ?_⟩, rfl⟩
      rw [Bool.and_eq_true, Bool.or_eq_true, decide_eq_true_eq, decide_eq_true_eq] at chosen
      exact (missing_undirected_iff directional).mpr ⟨order, chosen⟩

/-- A complement has as many edges more as it makes more than it removes. -/
theorem length_complemented (policy : ComplementPolicy) (g : Graph) :
    (complemented policy g).edgeCount + g.edges.countP (exchanged policy) =
      g.edgeCount + (missingPairs policy g g.nodes).length := by
  have parted := g.edges.length_eq_countP_add_countP (exchanged policy)
  have kept : (g.edges.filter fun e => !exchanged policy e).length =
      g.edges.countP fun e => ¬ exchanged policy e = true := by
    rw [← List.countP_eq_length_filter]
    exact List.countP_congr fun e _ => by simp
  rw [edgeCount, edgeCount, complemented, edges_withEdges, List.length_append,
    Edge.length_numbered, kept, parted]
  omega

end Graph

namespace Workspace

variable {w : Workspace} {first second : GraphId} {m : MapId}

/-! ## Reports -/

/-- Where its correspondence fits, a union reports what it did. -/
theorem union_reports (reached : w.Reachable) (held : first < w.graphs.length) {map : Option MapId}
    (fits : ∀ m, map = some m → ¬ w.Misfits m second first) (policy : UnionPolicy) {united : Graph}
    (made : united = Graph.united (w.graph first) (w.graph second) (w.presetOf map)) :
    ∃ answer after,
      run (.union first second map policy) w =
        .ok { answer := answer, event := some (.union ((w.presetOf map).setCount (w.graph second))
          (if policy.parallelFree then united.parallelCount policy.directed else 0)
          (Graph.thinned policy united).nodeCount (Graph.thinned policy united).edgeCount) } after ∧
      after.graph first = Graph.thinned policy united := by
  have points : (w.presetOf map).PointsInto (w.graph second) (w.graph first) :=
    presetOf_pointsInto fun m given => (not_misfits_iff.mp (fits m given)).2
  have ran := Graph.union_run (reached.wellFormed first) (reached.wellFormed second) points policy
  rw [Assignment.length_identifications points, ← made] at ran
  cases map with
  | some m =>
    have bound := (not_misfits_iff.mp (fits m rfl)).1
    exact ⟨_, _, union_completes bound ran, graph_recorded_self held _ m _⟩
  | none =>
    have held' : first < (w.withMap second).graphs.length := held
    exact ⟨_, _, union_new_completes ran, graph_recorded_self held' _ w.maps.length _⟩

/-- Where its correspondence fits, a join reports what it did. -/
theorem join_reports (reached : w.Reachable) (apart : first ≠ second)
    (held : first < w.graphs.length) (fits : ¬ w.Misfits m second first) :
    ∃ answer after joined removed,
      run (.join first second m) w =
        .ok { answer := answer, event := some (.join ((w.map m).values.setCount (w.graph second))
          removed joined.nodeCount joined.edgeCount) } after ∧
      after.graph first = joined ∧
      Graph.JoinCounts (w.map m).values (w.graph first) (w.graph second) joined removed := by
  obtain ⟨bound, valid⟩ := not_misfits_iff.mp fits
  have wf := reached.wellFormed first
  obtain ⟨images, g, settled, ran⟩ := Graph.join_run wf (reached.wellFormed second) valid
  rw [Assignment.length_identifications valid] at ran
  exact ⟨_, _, _, _, join_command apart bound ran, graph_recorded_self held _ m images,
    Graph.joinCounts wf valid settled⟩

/-- Where its correspondence fits, an intersection reports what it did. -/
theorem intersection_reports (reached : w.Reachable) (apart : first ≠ second)
    (held : first < w.graphs.length) (fits : ¬ w.Misfits m first second) :
    ∃ after common droppedNodes droppedEdges,
      run (.intersection first second m) w =
        .ok { answer := .done, event := some (.intersection droppedNodes droppedEdges
          common.nodeCount common.edgeCount) } after ∧
      after.graph first = common ∧
      Graph.IntersectionCounts (w.map m).values (w.graph first) common droppedNodes
        droppedEdges := by
  obtain ⟨bound, valid⟩ := not_misfits_iff.mp fits
  have wf := reached.wellFormed first
  exact ⟨_, _, _, _, intersection_command apart bound (Graph.intersection_run wf valid),
    (setGraph_replaced held _).graph_eq,
    Graph.intersectionCounts wf (w.graph second) (w.map m).values⟩

/-- A complement reports what it did. -/
theorem complement_reports (reached : w.Reachable) (held : first < w.graphs.length)
    (policy : ComplementPolicy) :
    ∃ after,
      run (.complement first policy) w =
        .ok { answer := .done, event := some (.complement policy
          ((w.graph first).edges.countP (Graph.exchanged policy))
          (Graph.openCount policy (w.graph first))) } after ∧
      (after.graph first).edgeCount + (w.graph first).edges.countP (Graph.exchanged policy) =
        (w.graph first).edgeCount + Graph.openCount policy (w.graph first) := by
  have wf := reached.wellFormed first
  have ran := Graph.complement_run policy wf
  rw [Graph.length_missingPairs wf] at ran
  refine ⟨_, bind_of_ok (onGraph_run ran), ?_⟩
  rw [(setGraph_replaced held _).graph_eq, ← Graph.length_missingPairs wf]
  exact Graph.length_complemented policy (w.graph first)

/-- In every workspace that commands lead to, the events of operations on two graphs that succeed
account for all nodes and edges. The counts they report are those of the graph that is left. A union
and a join identify the nodes of the second graph that are set, and of the edges of both graphs,
with those across in a join, they report as many removed as are not left. An intersection drops the
nodes that are not set, and of the edges between the others those that are not left. A complement
removes the edges that it exchanges and makes one for every pair that had none. -/
theorem reports_conserve (reached : w.Reachable) (apart : first ≠ second)
    (held : first < w.graphs.length) :
    (∀ map policy reply after, run (.union first second map policy) w = .ok reply after →
      ∃ removed answer raw,
        run (.union first second map { policy with parallelFree := false }) w = .ok answer raw ∧
        reply.event = some (.union ((w.presetOf map).setCount (w.graph second)) removed
          (after.graph first).nodeCount (after.graph first).edgeCount) ∧
        Graph.UnionCounts policy (w.presetOf map) (w.graph first) (w.graph second)
          (raw.graph first) (after.graph first) removed) ∧
    (∀ m reply after, run (.join first second m) w = .ok reply after →
      ∃ removed,
        reply.event = some (.join ((w.map m).values.setCount (w.graph second)) removed
          (after.graph first).nodeCount (after.graph first).edgeCount) ∧
        Graph.JoinCounts (w.map m).values (w.graph first) (w.graph second) (after.graph first)
          removed) ∧
    (∀ m reply after, run (.intersection first second m) w = .ok reply after →
      ∃ droppedNodes droppedEdges,
        reply.event = some (.intersection droppedNodes droppedEdges
          (after.graph first).nodeCount (after.graph first).edgeCount) ∧
        Graph.IntersectionCounts (w.map m).values (w.graph first) (after.graph first) droppedNodes
          droppedEdges) ∧
    ∀ policy reply after, run (.complement first policy) w = .ok reply after →
      reply.event = some (.complement policy
        ((w.graph first).edges.countP (Graph.exchanged policy))
        (Graph.openCount policy (w.graph first))) ∧
      (after.graph first).edgeCount + (w.graph first).edges.countP (Graph.exchanged policy) =
        (w.graph first).edgeCount + Graph.openCount policy (w.graph first) := by
  refine ⟨?_, ?_, ?_, ?_⟩
  · intro map policy reply after ran
    have fits : ∀ m, map = some m → ¬ w.Misfits m second first := by
      rintro m rfl misfit
      obtain ⟨_, refused, _⟩ := union_misfit misfit policy
      rw [refused] at ran
      cases ran
    obtain ⟨_, _, united, left⟩ := union_reports reached held fits policy rfl
    obtain ⟨_, raw, plain, whole⟩ :=
      union_reports reached held fits { policy with parallelFree := false } rfl
    rw [united] at ran
    cases ran
    rw [left]
    refine ⟨_, _, raw, plain, rfl, ?_⟩
    rw [whole]
    exact Graph.unionCounts policy (w.presetOf map) (w.graph first) (w.graph second)
  · intro m reply after ran
    have fits : ¬ w.Misfits m second first := by
      intro misfit
      obtain ⟨_, refused, _⟩ := join_misfit misfit
      rw [refused] at ran
      cases ran
    obtain ⟨_, _, joined, removed, completes, left, counts⟩ := join_reports reached apart held fits
    rw [completes] at ran
    cases ran
    rw [left]
    exact ⟨removed, rfl, counts⟩
  · intro m reply after ran
    have fits : ¬ w.Misfits m first second := by
      intro misfit
      obtain ⟨_, refused, _⟩ := intersection_misfit misfit
      rw [refused] at ran
      cases ran
    obtain ⟨_, common, droppedNodes, droppedEdges, completes, left, counts⟩ :=
      intersection_reports reached apart held fits
    rw [completes] at ran
    cases ran
    rw [left]
    exact ⟨droppedNodes, droppedEdges, rfl, counts⟩
  · intro policy reply after ran
    obtain ⟨_, completes, counts⟩ := complement_reports reached held policy
    rw [completes] at ran
    cases ran
    exact ⟨rfl, counts⟩

/-- Two graphs with loops and parallel edges, a correspondence that identifies two nodes of the
second with one of the first, and one from a single node of the first to the second. -/
def tallied : List Command :=
  [.newGraph, .newNode 0, .newNode 0, .newNode 0, .deleteNode 0 1, .newEdge 0 0 2, .newEdge 0 0 2,
    .newEdge 0 2 0, .newEdge 0 2 2, .newGraph, .newNode 1, .newNode 1, .newNode 1, .newEdge 1 0 1,
    .newEdge 1 1 1, .newEdge 1 1 2, .newMap (some 1), .write 0 0 (some (.int 2)),
    .write 0 1 (some (.int 2)), .newMap (some 0), .write 1 2 (some (.int 1))]

theorem reports_conserve_tallied :
    Reachable (runAll {} tallied) ∧ 0 ≠ 1 ∧ 0 < (runAll {} tallied).graphs.length ∧
    (∃ reply after removed,
      run (.union 0 1 (some 0) ⟨true, false⟩) (runAll {} tallied) = .ok reply after ∧
      reply.event = some (.union 2 removed (after.graph 0).nodeCount (after.graph 0).edgeCount) ∧
      (after.graph 0).nodeCount + 2 = 2 + 3 ∧ (after.graph 0).edgeCount + removed = 4 + 3) ∧
    (∃ reply after removed, run (.join 0 1 0) (runAll {} tallied) = .ok reply after ∧
      reply.event = some (.join 2 removed (after.graph 0).nodeCount (after.graph 0).edgeCount) ∧
      (after.graph 0).nodeCount + 2 = 2 + 3 ∧
      (after.graph 0).edgeCount + removed + 2 = 4 + 3 + 2 * 3) ∧
    (∃ reply after dropped, run (.intersection 0 1 1) (runAll {} tallied) = .ok reply after ∧
      reply.event = some (.intersection 1 dropped 1 (after.graph 0).edgeCount) ∧
      (after.graph 0).edgeCount + dropped = 1) ∧
    ∃ reply after, run (.complement 0 ⟨false, true⟩) (runAll {} tallied) = .ok reply after ∧
      reply.event = some (.complement ⟨false, true⟩ 4 1) ∧
      (after.graph 0).edgeCount + 4 = 4 + 1 := by
  have reached : Reachable (runAll {} tallied) :=
    reachable_runAll .empty (by simp [tallied, Command.Proper])
  have held : 0 < (runAll {} tallied).graphs.length := by decide +kernel
  have apart : 0 ≠ 1 := by decide
  have identifies : ¬ (runAll {} tallied).Misfits 0 1 0 :=
    not_misfits_iff.mpr ⟨by decide +kernel, by decide +kernel⟩
  have corresponds : ¬ (runAll {} tallied).Misfits 1 0 1 :=
    not_misfits_iff.mpr ⟨by decide +kernel, by decide +kernel⟩
  have nodes : ((runAll {} tallied).graph 0).nodeCount = 2 := by decide +kernel
  have edges : ((runAll {} tallied).graph 0).edgeCount = 4 := by decide +kernel
  have nodes' : ((runAll {} tallied).graph 1).nodeCount = 3 := by decide +kernel
  have edges' : ((runAll {} tallied).graph 1).edgeCount = 3 := by decide +kernel
  have identified : ((runAll {} tallied).map 0).values.setCount ((runAll {} tallied).graph 1) = 2 :=
    by decide +kernel
  have set : ((runAll {} tallied).map 1).values.setCount ((runAll {} tallied).graph 0) = 1 := by
    decide +kernel
  have between : ((runAll {} tallied).graph 0).edges.countP (fun e =>
      (((runAll {} tallied).map 1).values.get? e.source).isSome &&
        (((runAll {} tallied).map 1).values.get? e.target).isSome) = 1 := by decide +kernel
  have removed : ((runAll {} tallied).graph 0).edges.countP (Graph.exchanged ⟨false, true⟩) = 4 :=
    by decide +kernel
  have created : Graph.openCount ⟨false, true⟩ ((runAll {} tallied).graph 0) = 1 := by
    decide +kernel
  generalize runAll {} tallied = w at *
  obtain ⟨unions, joins, intersections, complements⟩ := reports_conserve reached apart held
  refine ⟨reached, apart, held, ?_, ?_, ?_, ?_⟩
  · have preset : w.presetOf (some 0) = (w.map 0).values := rfl
    have fits : ¬ ∃ m, some 0 = some m ∧ w.Misfits m 1 0 := by
      rintro ⟨_, ⟨⟩, misfit⟩
      exact identifies misfit
    obtain ⟨reply, after, ran⟩ := union_fits reached fits ⟨true, false⟩
    obtain ⟨removed, _, _, _, event, ⟨countedNodes, countedEdges, _⟩⟩ := unions _ _ _ _ ran
    rw [preset, identified] at event
    rw [preset, identified, nodes, nodes'] at countedNodes
    rw [edges, edges'] at countedEdges
    exact ⟨reply, after, removed, ran, event, countedNodes, countedEdges⟩
  · obtain ⟨reply, after, ran⟩ := join_fits reached apart identifies
    obtain ⟨removed, event, ⟨countedNodes, countedEdges⟩⟩ := joins _ _ _ ran
    rw [identified] at event
    rw [identified, nodes, nodes'] at countedNodes
    rw [identified, nodes, nodes', edges, edges'] at countedEdges
    exact ⟨reply, after, removed, ran, event, countedNodes, countedEdges⟩
  · obtain ⟨reply, after, ran⟩ := intersection_fits reached apart corresponds
    obtain ⟨_, dropped, event, ⟨lost, kept, countedEdges⟩⟩ := intersections _ _ _ ran
    rw [set, nodes] at lost
    rw [kept, set, Nat.succ.inj lost] at event
    rw [between] at countedEdges
    exact ⟨reply, after, dropped, ran, event, countedEdges⟩
  · obtain ⟨_, ran, _⟩ := complement_reports reached held ⟨false, true⟩
    rw [removed, created] at ran
    obtain ⟨event, counted⟩ := complements _ _ _ ran
    rw [removed, created] at event
    rw [removed, created, edges] at counted
    exact ⟨_, _, ran, event, counted⟩

end Workspace

end Multigraph
