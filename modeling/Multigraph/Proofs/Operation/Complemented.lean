import Multigraph.Proofs.Graph.Simple
import Multigraph.Proofs.Operation.Complement

/-!
The complement as a function of graphs. Counted from one node to another, the complement of a graph
has the edges that were not exchanged and one for each missing pair (`multiplicity_complemented`).
Under the default policy two nodes are joined in either the graph or its complement, once in the
complement (`joined_complemented`), so the complement of a graph without loops is simple
(`isSimple_complemented`).
-/
namespace Multigraph.Graph

/-- What the complement makes of a graph. -/
def complemented (policy : ComplementPolicy) (g : Graph) : Graph :=
  { g with edges := g.edges.filter fun e => !exchanged policy e }.withEdges
    (missingPairs policy g g.nodes)

@[simp] theorem nodes_complemented (policy : ComplementPolicy) (g : Graph) :
    (complemented policy g).nodes = g.nodes := rfl

variable {g : Graph} {u v : NodeId}

theorem complemented_wellFormed (wf : g.WellFormed) (policy : ComplementPolicy) :
    (complemented policy g).WellFormed :=
  ((complement_changes policy).reached (complement_run policy wf)).wellFormed wf

/-- Edges that a complement does not exchange keep their places; every missing pair gets one. -/
theorem multiplicity_complemented (wf : g.WellFormed) (policy : ComplementPolicy) (u v : NodeId) :
    (complemented policy g).multiplicity u v =
      (if policy.allowSelfLoops = false ∧ u = v then g.multiplicity u v else 0) +
        if u ∈ g.nodes ∧ v ∈ g.nodes ∧ missing policy g u v = true then 1 else 0 := by
  have kept : (g.edges.filter fun e => !exchanged policy e).countP (fun e => e.runs u v) =
      if policy.allowSelfLoops = false ∧ u = v then g.multiplicity u v else 0 := by
    rw [List.countP_filter]
    split
    · rename_i own
      refine List.countP_congr fun e _ => ?_
      simp only [exchanged, own.1, Edge.runs, Edge.isLoop, own.2]
      grind
    · rename_i other
      refine List.countP_eq_zero.mpr fun e _ => ?_
      simp only [exchanged, Edge.runs, Edge.isLoop]
      grind
  rw [multiplicity, complemented, edges_withEdges, List.countP_append, kept,
    countP_created wf policy u v]

/-- Under the default policy loops stay, and two nodes that are not adjacent are joined from the
earlier one. -/
theorem multiplicity_complemented_default (wf : g.WellFormed) (u v : NodeId) :
    (complemented {} g).multiplicity u v =
      if u = v then g.multiplicity u u
      else if u < v ∧ u ∈ g.nodes ∧ v ∈ g.nodes ∧ g.adjacent u v = false then 1 else 0 := by
  rw [multiplicity_complemented wf]
  by_cases same : u = v
  · subst same
    have bare : missing {} g u u = false := by simp [missing, pairInScope]
    simp [bare]
  · have lacks : missing {} g u v = true ↔ u < v ∧ g.adjacent u v = false :=
      missing_between rfl same
    simp only [same, and_false, if_false, Nat.zero_add, lacks]
    refine if_congr ?_ rfl rfl
    tauto

/-- Two nodes are joined in the complement if they were not, and then once. -/
theorem joined_complemented (wf : g.WellFormed) (apart : u ≠ v) (held : u ∈ g.nodes)
    (other : v ∈ g.nodes) :
    (complemented {} g).multiplicity u v + (complemented {} g).multiplicity v u =
      if g.adjacent u v = true then 0 else 1 := by
  rw [multiplicity_complemented_default wf, multiplicity_complemented_default wf,
    if_neg apart, if_neg (Ne.symm apart), g.adjacent_comm v u]
  rcases Int.lt_or_gt_of_ne apart with ahead | behind
  · cases g.adjacent u v <;> simp [ahead, Int.lt_asymm ahead, held, other]
  · cases g.adjacent u v <;> simp [behind, Int.lt_asymm behind, held, other]

/-- The complement joins exactly the pairs of nodes that were apart. -/
theorem adjacent_complemented (wf : g.WellFormed) (apart : u ≠ v) (held : u ∈ g.nodes)
    (other : v ∈ g.nodes) : (complemented {} g).adjacent u v = !g.adjacent u v := by
  have joined := joined_complemented wf apart held other
  rw [Bool.eq_iff_iff, adjacent_iff, joined]
  cases g.adjacent u v <;> simp

/-- Under every policy two nodes that are not adjacent are a missing pair, seen from one of them. -/
theorem missing_of_apart (policy : ComplementPolicy) (distinct : u ≠ v)
    (apart : g.adjacent u v = false) :
    missing policy g u v = true ∨ missing policy g v u = true := by
  cases directional : policy.directional with
  | true =>
    refine .inl ((missing_along directional distinct).mpr ?_)
    rintro ⟨e, member, running⟩
    exact List.any_eq_false.mp apart e member (by simp [Edge.joins, running])
  | false =>
    rcases Int.lt_or_gt_of_ne distinct with ahead | behind
    · exact .inl ((missing_between directional distinct).mpr ⟨ahead, apart⟩)
    · exact .inr ((missing_between directional distinct.symm).mpr
        ⟨behind, (g.adjacent_comm v u).trans apart⟩)

/-- Under every policy the complement joins the pairs of nodes that were apart. -/
theorem adjacent_complemented_of_apart (wf : g.WellFormed) (policy : ComplementPolicy)
    (distinct : u ≠ v) (held : u ∈ g.nodes) (other : v ∈ g.nodes)
    (apart : g.adjacent u v = false) : (complemented policy g).adjacent u v = true := by
  rw [adjacent_iff, multiplicity_complemented wf, multiplicity_complemented wf]
  rcases missing_of_apart policy distinct apart with lacks | lacks
  · rw [if_pos (show u ∈ g.nodes ∧ v ∈ g.nodes ∧ _ from ⟨held, other, lacks⟩)]
    omega
  · rw [if_pos (show v ∈ g.nodes ∧ u ∈ g.nodes ∧ _ from ⟨other, held, lacks⟩)]
    omega

/-- At a node itself nothing changes. -/
theorem multiplicity_complemented_self (wf : g.WellFormed) (u : NodeId) :
    (complemented {} g).multiplicity u u = g.multiplicity u u := by
  rw [multiplicity_complemented_default wf, if_pos rfl]

/-- Two nodes of a complement are joined at most once. -/
theorem joined_complemented_le (wf : g.WellFormed) (apart : u ≠ v) :
    (complemented {} g).multiplicity u v + (complemented {} g).multiplicity v u ≤ 1 := by
  rw [multiplicity_complemented_default wf, multiplicity_complemented_default wf,
    if_neg apart, if_neg (Ne.symm apart)]
  -- Only one of the two nodes is the earlier one.
  rcases Int.lt_or_gt_of_ne apart with ahead | behind
  · simp only [Int.lt_asymm ahead, false_and, if_false]
    split <;> omega
  · simp only [Int.lt_asymm behind, false_and, if_false]
    split <;> omega

/-- The complement of a graph without loops is simple. -/
theorem isSimple_complemented (wf : g.WellFormed) (straight : g.hasLoops = false) :
    (complemented {} g).isSimple = true := by
  apply isSimple_iff.mpr
  intro u v
  by_cases same : u = v
  · subst same
    rw [multiplicity_complemented_self wf, hasLoops_eq_false_iff.mp straight u]
    exact Nat.zero_le 1
  · exact joined_complemented_le wf same

/-- A complement has parallel edges only where the graph had more than one loop at a node. -/
theorem isParallelFree_complemented (wf : g.WellFormed) (once : ∀ u, g.multiplicity u u ≤ 1) :
    (complemented {} g).isParallelFree false = true := by
  refine isParallelFree_iff.mpr fun u v => ?_
  by_cases same : u = v
  · subst same
    rw [countP_joins_self, multiplicity_complemented_self wf]
    exact once u
  · rw [countP_joins _ same]
    exact joined_complemented_le wf same

end Multigraph.Graph
