import Multigraph.Proofs.Operation.Complemented
import Multigraph.Proofs.Workspace.Transcript

/-!
Complements of complements. What a complement makes of a pair depends only on whether the pair has
an edge (`pairCount_complemented`), so a second complement brings back every pair that had one, with
one edge, and no other (`pairCount_complemented_twice`). A graph with one edge at most for each pair
is therefore restored, up to the direction of edges where direction does not count, and a third
complement comes to the same as the first (`perm_ends_complemented_thrice`).
-/
namespace Multigraph

open Multigraph.Action

namespace Graph

/-- Whether a complement exchanges the pair of two nodes: a node with itself only if loops are
allowed. -/
def eligible (policy : ComplementPolicy) (u v : NodeId) : Bool :=
  policy.allowSelfLoops || u ≠ v

/-- How many edges a graph has at a pair of nodes, which is an ordered pair if direction counts. -/
def pairCount (policy : ComplementPolicy) (g : Graph) (u v : NodeId) : Nat :=
  g.edges.countP fun e => if policy.directional then e.runs u v else e.joins u v

variable {policy : ComplementPolicy} {g : Graph} {u v : NodeId}

/-! ## Counting at a pair -/

theorem pairCount_directed (directed : policy.directional = true) (g : Graph) (u v : NodeId) :
    g.pairCount policy u v = g.multiplicity u v := by
  simp only [pairCount, multiplicity, directed, if_true]

theorem pairCount_undirected (undirected : policy.directional = false) (g : Graph) (u v : NodeId) :
    g.pairCount policy u v = g.edges.countP fun e => e.joins u v := by
  simp only [pairCount, undirected, Bool.false_eq_true, if_false]

/-- At a node itself direction makes no difference. -/
theorem pairCount_self (policy : ComplementPolicy) (g : Graph) (u : NodeId) :
    g.pairCount policy u u = g.multiplicity u u := by
  cases directional : policy.directional with
  | true => exact pairCount_directed directional g u u
  | false => rw [pairCount_undirected directional, countP_joins_self]

/-- Without direction the edges at two nodes run one way or the other. -/
theorem pairCount_between (undirected : policy.directional = false) (g : Graph) (apart : u ≠ v) :
    g.pairCount policy u v = g.multiplicity u v + g.multiplicity v u := by
  rw [pairCount_undirected undirected, countP_joins g apart]

theorem pairCount_comm (undirected : policy.directional = false) (g : Graph) (u v : NodeId) :
    g.pairCount policy u v = g.pairCount policy v u := by
  rw [pairCount_undirected undirected, pairCount_undirected undirected]
  simp only [Edge.joins, Bool.or_comm]

/-- Edges run between nodes of the graph only. -/
theorem pairCount_eq_zero (wf : g.WellFormed) (foreign : ¬ (u ∈ g.nodes ∧ v ∈ g.nodes)) :
    g.pairCount policy u v = 0 := by
  cases directional : policy.directional with
  | true => rw [pairCount_directed directional, multiplicity_eq_zero wf foreign]
  | false =>
    by_cases same : u = v
    · subst same
      rw [pairCount_self, multiplicity_eq_zero wf foreign]
    · rw [pairCount_between directional g same, multiplicity_eq_zero wf foreign,
        multiplicity_eq_zero wf fun both => foreign both.symm]

/-! ## Pairs that are exchanged -/

theorem eligible_comm (policy : ComplementPolicy) (u v : NodeId) :
    eligible policy u v = eligible policy v u := by
  simp only [eligible, ne_comm]

/-- Only a node with itself may not be exchanged. -/
theorem eligible_eq_false_iff :
    eligible policy u v = false ↔ policy.allowSelfLoops = false ∧ u = v := by
  simp [eligible]

/-- An edge is exchanged if its ends are. -/
theorem exchanged_eq_eligible (policy : ComplementPolicy) (e : Edge) :
    exchanged policy e = eligible policy e.source e.target := by
  simp [exchanged, eligible, Edge.isLoop]

/-- While a node is swept, the pairs from it are in scope that are exchanged, but without direction
only if the node is the earlier one. -/
theorem pairInScope_iff :
    pairInScope policy u v = true ↔
      (policy.directional = true ∨ u ≤ v) ∧ eligible policy u v = true := by
  simp [pairInScope, eligible]

/-- A pair is missing if it is in scope and has no edge. -/
theorem missing_iff :
    missing policy g u v = true ↔ pairInScope policy u v = true ∧ g.pairCount policy u v = 0 := by
  rw [missing, Bool.and_eq_true, Bool.not_eq_true', List.any_eq_false, pairCount,
    List.countP_eq_zero]
  refine and_congr_right fun scope => forall₂_congr fun e _ => ?_
  rw [decide_eq_true_eq]
  cases directional : policy.directional with
  | true => simp [Edge.bundle_directed, Edge.runs]
  | false =>
    have order : u ≤ v := by
      simp only [pairInScope, directional, Bool.false_or, Bool.and_eq_true, decide_eq_true_eq]
        at scope
      exact scope.1
    rw [Edge.bundle_undirected_iff order]
    simp

/-! ## One complement -/

/-- A pair that is not exchanged is a node with itself, and keeps its edges. -/
theorem multiplicity_complemented_ineligible (wf : g.WellFormed)
    (stays : eligible policy u v = false) :
    (complemented policy g).multiplicity u v = g.multiplicity u v := by
  obtain ⟨forbidden, rfl⟩ := eligible_eq_false_iff.mp stays
  have bare : missing policy g u u = false := by simp [missing, pairInScope, forbidden]
  rw [multiplicity_complemented wf]
  simp [forbidden, bare]

/-- A pair that is exchanged has one edge if it had none, and none otherwise. -/
theorem pairCount_complemented (wf : g.WellFormed) (goes : eligible policy u v = true) :
    (complemented policy g).pairCount policy u v =
      if u ∈ g.nodes ∧ v ∈ g.nodes ∧ g.pairCount policy u v = 0 then 1 else 0 := by
  have exchanged : ¬ (policy.allowSelfLoops = false ∧ u = v) := by
    rw [← eligible_eq_false_iff, goes]
    simp
  have oneWay : (complemented policy g).multiplicity u v =
      if u ∈ g.nodes ∧ v ∈ g.nodes ∧
        (policy.directional = true ∨ u ≤ v) ∧ g.pairCount policy u v = 0 then 1 else 0 := by
    rw [multiplicity_complemented wf, if_neg exchanged, Nat.zero_add]
    simp only [missing_iff, pairInScope_iff, goes, and_true]
  cases directional : policy.directional with
  | true =>
    rw [pairCount_directed directional, oneWay]
    simp [directional]
  | false =>
    by_cases same : u = v
    · subst same
      rw [pairCount_self, oneWay]
      simp
    · -- The pair is met at the lesser of its nodes, and an edge at either counts for both.
      have otherWay : (complemented policy g).multiplicity v u =
          if u ∈ g.nodes ∧ v ∈ g.nodes ∧ v ≤ u ∧ g.pairCount policy u v = 0 then 1 else 0 := by
        rw [multiplicity_complemented wf, if_neg fun own => same own.2.symm, Nat.zero_add]
        simp only [missing_iff, pairInScope_iff, eligible_comm policy v u, goes, directional,
          pairCount_comm directional g v u, and_true, Bool.false_eq_true, false_or]
        refine if_congr ?_ rfl rfl
        tauto
      rw [pairCount_between directional _ same, oneWay, otherWay]
      simp only [directional, Bool.false_eq_true, false_or]
      rcases Int.lt_or_gt_of_ne same with ahead | behind
      · simp [Int.le_of_lt ahead, Int.not_le.mpr ahead]
      · simp [Int.le_of_lt behind, Int.not_le.mpr behind]

/-- The edges that a complement draws are such as a complement exchanges. -/
theorem exchanged_created (first : EdgeId) {e : Edge}
    (created : e ∈ Edge.numbered first (missingPairs policy g g.nodes)) :
    exchanged policy e = true := by
  obtain ⟨-, -, lacks⟩ := mem_missingPairs.mp (Edge.ends_mem_of_mem_numbered created)
  rw [exchanged_eq_eligible]
  exact (pairInScope_iff.mp (missing_iff.mp lacks).1).2

/-- The edges that are not exchanged are the same after a complement, with their handles and in
their order. -/
theorem filter_complemented (policy : ComplementPolicy) (g : Graph) :
    ((complemented policy g).edges.filter fun e => !exchanged policy e) =
      g.edges.filter fun e => !exchanged policy e := by
  have drawn : ((Edge.numbered g.nextEdge (missingPairs policy g g.nodes)).filter
      fun e => !exchanged policy e) = [] :=
    List.filter_eq_nil_iff.mpr fun e created => by simp [exchanged_created g.nextEdge created]
  rw [complemented, edges_withEdges, List.filter_append, drawn, List.append_nil,
    List.filter_filter]
  simp only [Bool.and_self]

/-! ## Two complements and three -/

/-- After two complements a pair that is exchanged has one edge if it had any, and none
otherwise. -/
theorem pairCount_complemented_twice (wf : g.WellFormed) (goes : eligible policy u v = true) :
    (complemented policy (complemented policy g)).pairCount policy u v =
      if 0 < g.pairCount policy u v then 1 else 0 := by
  rw [pairCount_complemented (complemented_wellFormed wf policy) goes, nodes_complemented,
    pairCount_complemented wf goes]
  by_cases held : u ∈ g.nodes ∧ v ∈ g.nodes
  · by_cases bare : g.pairCount policy u v = 0
    · simp [held, bare]
    · simp [held, bare, Nat.pos_of_ne_zero bare]
  · rw [pairCount_eq_zero wf held, if_neg fun inside => held ⟨inside.1, inside.2.1⟩,
      if_neg (Nat.lt_irrefl 0)]

/-- A pair of nodes is missing after two complements if it was before. -/
theorem missing_complemented_twice (wf : g.WellFormed) (policy : ComplementPolicy)
    (u v : NodeId) :
    missing policy (complemented policy (complemented policy g)) u v = missing policy g u v := by
  rw [Bool.eq_iff_iff, missing_iff, missing_iff]
  refine and_congr_right fun scope => ?_
  rw [pairCount_complemented_twice wf (pairInScope_iff.mp scope).2]
  split <;> omega

/-- A third complement has as many edges from any node to any other as the first. -/
theorem multiplicity_complemented_thrice (wf : g.WellFormed) (policy : ComplementPolicy)
    (u v : NodeId) :
    (complemented policy (complemented policy (complemented policy g))).multiplicity u v =
      (complemented policy g).multiplicity u v := by
  have wf' := complemented_wellFormed wf policy
  rw [multiplicity_complemented (complemented_wellFormed wf' policy), multiplicity_complemented wf]
  simp only [nodes_complemented, missing_complemented_twice wf]
  congr 1
  split
  · rename_i own
    have stays : eligible policy u v = false := by simp [eligible, own.1, own.2]
    rw [multiplicity_complemented_ineligible wf' stays,
      multiplicity_complemented_ineligible wf stays]
  · rfl

/-- A graph with one edge at most at each pair that is exchanged has the same edges at every pair
after two complements. -/
theorem pairCount_complemented_twice_of_once (wf : g.WellFormed)
    (once : ∀ u ∈ g.nodes, ∀ v ∈ g.nodes, eligible policy u v = true →
      g.pairCount policy u v ≤ 1) (u v : NodeId) :
    (complemented policy (complemented policy g)).pairCount policy u v =
      g.pairCount policy u v := by
  cases goes : eligible policy u v with
  | true =>
    rw [pairCount_complemented_twice wf goes]
    by_cases held : u ∈ g.nodes ∧ v ∈ g.nodes
    · have atMost := once u held.1 v held.2 goes
      split <;> omega
    · rw [pairCount_eq_zero wf held, if_neg (Nat.lt_irrefl 0)]
  | false =>
    obtain ⟨-, rfl⟩ := eligible_eq_false_iff.mp goes
    rw [pairCount_self, pairCount_self,
      multiplicity_complemented_ineligible (complemented_wellFormed wf policy) goes,
      multiplicity_complemented_ineligible wf goes]

/-- What it is for a graph to be restored by two complements. -/
structure Restored (policy : ComplementPolicy) (before after : Graph) : Prop where
  nodes_same : after.nodes = before.nodes
  /-- A pair that is exchanged has one edge if it had any, and none otherwise. -/
  normal : ∀ u v, eligible policy u v = true →
    after.pairCount policy u v = if 0 < before.pairCount policy u v then 1 else 0
  /-- Edges that are not exchanged are the same, with their handles and in their order. -/
  kept : (after.edges.filter fun e => !exchanged policy e) =
    before.edges.filter fun e => !exchanged policy e
  /-- If no pair that is exchanged had more than one edge, the edges run between the same nodes, and
  in the same direction if direction counts. -/
  ends_same : (∀ u ∈ before.nodes, ∀ v ∈ before.nodes, eligible policy u v = true →
      before.pairCount policy u v ≤ 1) →
    if policy.directional then (after.edges.map Edge.ends).Perm (before.edges.map Edge.ends)
    else (after.edges.map Edge.pair).Perm (before.edges.map Edge.pair)

/-- Two complements restore a graph. -/
theorem complemented_twice_restored (wf : g.WellFormed) (policy : ComplementPolicy) :
    Restored policy g (complemented policy (complemented policy g)) where
  nodes_same := rfl
  normal _ _ := pairCount_complemented_twice wf
  kept := by rw [filter_complemented, filter_complemented]
  ends_same once := by
    have same := pairCount_complemented_twice_of_once wf once
    cases directional : policy.directional with
    | true =>
      refine perm_ends_of_multiplicity fun u v => ?_
      rw [← pairCount_directed directional, ← pairCount_directed directional]
      exact same u v
    | false =>
      refine List.perm_iff_count.mpr fun pair => ?_
      induction pair with | h u v =>
      rw [count_pairs, count_pairs, ← pairCount_undirected directional,
        ← pairCount_undirected directional]
      exact same u v

end Graph

namespace Workspace

/-- In every workspace that commands lead to, and under every policy, a graph can be complemented
three times in a row. The second complement restores the graph, and the third draws the same ends as
the first. -/
theorem complement_restores {w : Workspace} (reached : w.Reachable) {id : GraphId}
    (held : id < w.graphs.length) (policy : ComplementPolicy) :
    ∃ event once event' twice event'' thrice,
      run (.complement id policy) w = .ok { answer := .done, event := some event } once ∧
      run (.complement id policy) once = .ok { answer := .done, event := some event' } twice ∧
      run (.complement id policy) twice = .ok { answer := .done, event := some event'' } thrice ∧
      Graph.Restored policy (w.graph id) (twice.graph id) ∧
      ((thrice.graph id).edges.map Edge.ends).Perm ((once.graph id).edges.map Edge.ends) := by
  have wf := reached.wellFormed id
  obtain ⟨event, once, first, reached', replaced⟩ := complement_command reached held policy
  obtain ⟨event', twice, second, reached'', replaced'⟩ :=
    complement_command reached' (replaced.length_eq ▸ held) policy
  obtain ⟨event'', thrice, third, -, replaced''⟩ :=
    complement_command reached'' (replaced'.length_eq ▸ replaced.length_eq ▸ held) policy
  refine ⟨event, once, event', twice, event'', thrice, first, second, third, ?_, ?_⟩
  · rw [replaced'.graph_eq, replaced.graph_eq]
    exact Graph.complemented_twice_restored wf policy
  · rw [replaced''.graph_eq, replaced'.graph_eq, replaced.graph_eq]
    exact Graph.perm_ends_of_multiplicity (Graph.multiplicity_complemented_thrice wf policy)

theorem complement_restores_tangle :
    Reachable (runAll {} tangle) ∧ 0 < (runAll {} tangle).graphs.length ∧
    ∃ event once event' twice event'' thrice,
      run (.complement 0 ⟨false, true⟩) (runAll {} tangle) =
        .ok { answer := .done, event := some event } once ∧
      run (.complement 0 ⟨false, true⟩) once =
        .ok { answer := .done, event := some event' } twice ∧
      run (.complement 0 ⟨false, true⟩) twice =
        .ok { answer := .done, event := some event'' } thrice ∧
      Graph.Restored ⟨false, true⟩ ((runAll {} tangle).graph 0) (twice.graph 0) ∧
      ((thrice.graph 0).edges.map Edge.ends).Perm ((once.graph 0).edges.map Edge.ends) ∧
      (twice.graph 0).nodes = [0, 2, 3] ∧
      (once.graph 0).edges = [⟨6, 0, 0⟩, ⟨7, 0, 3⟩, ⟨8, 2, 2⟩] ∧
      (twice.graph 0).edges = [⟨9, 0, 2⟩, ⟨10, 2, 3⟩, ⟨11, 3, 3⟩] ∧
      (thrice.graph 0).edges = [⟨12, 0, 0⟩, ⟨13, 0, 3⟩, ⟨14, 2, 2⟩] := by
  have reached : Reachable (runAll {} tangle) :=
    reachable_runAll .empty (by simp [tangle, Command.Proper])
  have held : 0 < (runAll {} tangle).graphs.length := by decide
  obtain ⟨event, once, event', twice, event'', thrice, first, second, third, restored, same⟩ :=
    complement_restores reached held ⟨false, true⟩
  obtain rfl : (runAll {} tangle).step (.complement 0 ⟨false, true⟩) = once := after_of_ok first
  obtain rfl : step _ (.complement 0 ⟨false, true⟩) = twice := after_of_ok second
  obtain rfl : step _ (.complement 0 ⟨false, true⟩) = thrice := after_of_ok third
  exact ⟨reached, held, event, _, event', _, event'', _, first, second, third, restored, same,
    by decide +kernel, by decide +kernel, by decide +kernel, by decide +kernel⟩

end Workspace

end Multigraph
