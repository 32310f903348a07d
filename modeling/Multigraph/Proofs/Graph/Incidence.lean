import Mathlib.Algebra.BigOperators.Group.List.Basic
import Mathlib.Algebra.GroupWithZero.Nat
import Multigraph.Proofs.Graph.Drawing

/-!
Counting edges at nodes. The nodes that a node leads to are counted by the edges between them
(`count_successors`), a loop once; the far ends of all its incidences count every edge from either
end, a loop twice (`count_twins`). Summed over all nodes, the edges that leave them are all edges
(`sum_length_successors`), and the far ends count every edge twice (`sum_length_twins`).
-/
namespace Multigraph.Graph

/-- The number of edges from one node to another. -/
def multiplicity (g : Graph) (u v : NodeId) : Nat := g.edges.countP fun e => e.runs u v

variable {g : Graph} {u v : NodeId}

/-- The ends of the edges list a pair as often as the graph has edges that way. -/
theorem count_ends (g : Graph) (u v : NodeId) :
    (g.edges.map Edge.ends).count (u, v) = g.multiplicity u v := by
  rw [List.count_eq_countP, List.countP_map, multiplicity]
  refine List.countP_congr fun e _ => ?_
  rw [Function.comp_apply, beq_iff_eq, Edge.runs_eq, decide_eq_true_eq]

/-- Graphs with as many edges from any node to any other have the same ends. -/
theorem perm_ends_of_multiplicity {g h : Graph}
    (same : ∀ u v, g.multiplicity u v = h.multiplicity u v) :
    (g.edges.map Edge.ends).Perm (h.edges.map Edge.ends) := by
  refine List.perm_iff_count.mpr fun (u, v) => ?_
  rw [count_ends, count_ends, same]

/-- Edges run between nodes of the graph only. -/
theorem multiplicity_eq_zero (wf : g.WellFormed) (foreign : ¬ (u ∈ g.nodes ∧ v ∈ g.nodes)) :
    g.multiplicity u v = 0 := by
  refine List.countP_eq_zero.mpr fun e member running => foreign ?_
  obtain ⟨source, target⟩ := wf.ends_mem e member
  simp only [Edge.runs, Bool.and_eq_true, decide_eq_true_eq] at running
  exact ⟨running.1 ▸ source, running.2 ▸ target⟩

/-- What a node leads to, edge by edge. -/
theorem successors_eq (g : Graph) (u : NodeId) :
    g.successors u = (g.edges.filter fun e => e.source = u).map Edge.target := by
  have leaving : ∀ e : Edge, ((e.incidencesAt u).filter fun i => i.atSource).map (fun i => i.twin) =
      if e.source = u then [e.target] else [] := by
    intro e
    by_cases source : e.source = u <;> by_cases target : e.target = u <;>
      simp [Edge.incidencesAt, source, target]
  rw [successors, incidences_eq_flatMap, List.filter_flatMap, List.map_flatMap]
  simp only [leaving]
  have chosen := flatMap_chosen g.edges (fun e => decide (e.source = u)) Edge.target
  simpa only [decide_eq_true_eq] using chosen

/-- A node leads to another once for each edge between them. -/
theorem count_successors (g : Graph) (u v : NodeId) :
    (g.successors u).count v = g.multiplicity u v := by
  rw [successors_eq, List.count_eq_countP, List.countP_map, List.countP_filter, multiplicity]
  refine List.countP_congr fun e _ => ?_
  simp [Edge.runs, and_comm]

/-- The far ends at a node count the edges in both directions. -/
theorem count_twins (g : Graph) (u v : NodeId) :
    (g.twins u).count v = g.multiplicity u v + g.multiplicity v u := by
  rw [twins, incidences_eq_flatMap, multiplicity, multiplicity]
  induction g.edges with
  | nil => rfl
  | cons e rest ih =>
    have here : ((e.incidencesAt u).map fun i => i.twin).count v =
        (if e.runs u v then 1 else 0) + (if e.runs v u then 1 else 0) := by
      by_cases source : e.source = u <;> by_cases target : e.target = u <;>
        simp [Edge.incidencesAt, Edge.runs, source, target, List.count_cons]
    rw [List.flatMap_cons, List.map_append, List.count_append, ih, here, List.countP_cons,
      List.countP_cons]
    omega

theorem mem_incidencesAt {e : Edge} {i : Incidence} :
    i ∈ e.incidencesAt u ↔ e.source = u ∧ i = ⟨e.id, u, e.target, true⟩ ∨
      e.target = u ∧ i = ⟨e.id, u, e.source, false⟩ := by
  rw [Edge.incidencesAt, List.mem_append]
  refine or_congr ?_ ?_
  · split <;> simp [*]
  · split <;> simp [*]

theorem mem_incidences {i : Incidence} :
    i ∈ g.incidences u ↔ ∃ e ∈ g.edges, i ∈ e.incidencesAt u := by
  rw [incidences_eq_flatMap, List.mem_flatMap]

theorem mem_nodes_of_mem_successors (wf : g.WellFormed) (leads : v ∈ g.successors u) :
    v ∈ g.nodes := by
  rw [successors_eq] at leads
  obtain ⟨e, chosen, rfl⟩ := List.mem_map.mp leads
  exact (wf.ends_mem e (List.mem_filter.mp chosen).1).2

theorem mem_nodes_of_mem_twins (wf : g.WellFormed) (beside : v ∈ g.twins u) : v ∈ g.nodes := by
  obtain ⟨i, incident, rfl⟩ := List.mem_map.mp beside
  obtain ⟨e, member, found⟩ := mem_incidences.mp incident
  obtain ⟨source, target⟩ := wf.ends_mem e member
  rcases mem_incidencesAt.mp found with ⟨_, rfl⟩ | ⟨_, rfl⟩
  · exact target
  · exact source

/-- Of distinct keys at most one is a given key. -/
theorem sum_single {κ : Type} [DecidableEq κ] {keys : List κ} (distinct : keys.Nodup) (key : κ)
    (n : Nat) :
    (keys.map fun k => if k = key then n else 0).sum = if key ∈ keys then n else 0 := by
  induction keys with
  | nil => rfl
  | cons k rest ih =>
    obtain ⟨new, others⟩ := List.nodup_cons.mp distinct
    rw [List.map_cons, List.sum_cons, ih others]
    by_cases same : k = key
    · subst same
      rw [if_pos rfl, if_neg new, if_pos List.mem_cons_self]
      rfl
    · have elsewhere : key ∈ k :: rest ↔ key ∈ rest := by simp [Ne.symm same]
      simp only [if_neg same, elsewhere, Nat.zero_add]

/-- When the keys of the members of a list are all in a list of distinct keys, counting the members
key by key counts them all. -/
theorem sum_countP_key {α : Type} {l : List α} (key : α → NodeId) {keys : List NodeId}
    (distinct : keys.Nodup) (inside : ∀ a ∈ l, key a ∈ keys) :
    (keys.map fun k => l.countP fun a => key a = k).sum = l.length := by
  induction l with
  | nil => simp
  | cons a rest ih =>
    have once : (keys.map fun k => if key a = k then 1 else 0).sum = 1 := by
      simp only [eq_comm (a := key a)]
      rw [sum_single distinct, if_pos (inside a List.mem_cons_self)]
    simp only [List.countP_cons, decide_eq_true_eq, List.sum_map_add, once, List.length_cons]
    rw [ih fun b member => inside b (List.mem_cons_of_mem a member)]

/-- Every edge leaves one node. -/
theorem sum_length_successors (wf : g.WellFormed) :
    (g.nodes.map fun u => (g.successors u).length).sum = g.edges.length := by
  have leaving : ∀ u, (g.successors u).length = g.edges.countP fun e => e.source = u := by
    intro u
    rw [successors_eq, List.length_map, List.countP_eq_length_filter]
  simp only [leaving]
  exact sum_countP_key Edge.source wf.nodes_nodup fun e member => (wf.ends_mem e member).1

/-- Every edge has two ends. -/
theorem sum_length_twins (wf : g.WellFormed) :
    (g.nodes.map fun u => (g.twins u).length).sum = 2 * g.edges.length := by
  have atSources := sum_countP_key Edge.source wf.nodes_nodup
    fun e member => (wf.ends_mem e member).1
  have atTargets := sum_countP_key Edge.target wf.nodes_nodup
    fun e member => (wf.ends_mem e member).2
  simp only [twins, List.length_map, length_incidences, degree, List.sum_map_add, atSources,
    atTargets]
  omega

end Multigraph.Graph
