import Mathlib.Data.Nat.Choose.Basic
import Mathlib.Tactic.Ring
import Multigraph.Proofs.Graph.Incidence
import Multigraph.Proofs.Graph.Parallel

/-!
Simple graphs: at most one edge between two nodes, counted in both directions, and so no loop
(`isSimple_iff`). The far ends at a node of a simple graph are its neighbours, each once, so the
sizes of the graph tell how many pairs of its nodes are not adjacent (`sum_apart`). Every such pair
is met from either end, and only once if the other node is to be a later one (`sum_laterApart`).
-/
namespace Multigraph.Graph

variable {g : Graph} {u v : NodeId}

/-- The edges that join two nodes run one way or the other. -/
theorem countP_joins (g : Graph) (apart : u ≠ v) :
    g.edges.countP (fun e => e.joins u v) = g.multiplicity u v + g.multiplicity v u := by
  rw [multiplicity, multiplicity]
  induction g.edges with
  | nil => rfl
  | cons e rest ih =>
    have oneWay : (if e.joins u v then 1 else 0) =
        (if e.runs u v then 1 else 0) + (if e.runs v u then 1 else 0) := by
      by_cases forth : e.runs u v = true
      · have back : e.runs v u = false := by
          simp only [Edge.runs, Bool.and_eq_true, decide_eq_true_eq] at forth
          simp [Edge.runs, forth, apart]
        simp [Edge.joins, forth, back]
      · simp [Edge.joins, forth]
    rw [List.countP_cons, List.countP_cons, List.countP_cons, ih, oneWay]
    omega

theorem countP_joins_self (g : Graph) (u : NodeId) :
    g.edges.countP (fun e => e.joins u u) = g.multiplicity u u := by
  simp only [Edge.joins, Bool.or_self]
  rfl

theorem adjacent_iff : g.adjacent u v = true ↔ 0 < g.multiplicity u v + g.multiplicity v u := by
  rw [adjacent, List.any_eq_true, Nat.add_pos_iff_pos_or_pos, multiplicity, multiplicity,
    List.countP_pos_iff, List.countP_pos_iff]
  simp only [Edge.joins, Bool.or_eq_true, and_or_left, exists_or]

/-- The far ends at a node are the nodes adjacent to it. -/
theorem mem_twins_iff_adjacent : v ∈ g.twins u ↔ g.adjacent u v = true := by
  rw [← List.count_pos_iff, count_twins, adjacent_iff]

/-- The ends of an edge are adjacent. -/
theorem adjacent_of_mem {e : Edge} (member : e ∈ g.edges) : g.adjacent e.source e.target = true :=
  List.any_eq_true.mpr ⟨e, member, by simp [Edge.joins, Edge.runs]⟩

theorem adjacent_congr {g' : Graph} {u' v' : NodeId}
    (forth : g.multiplicity u v = g'.multiplicity u' v')
    (back : g.multiplicity v u = g'.multiplicity v' u') : g.adjacent u v = g'.adjacent u' v' := by
  rw [Bool.eq_iff_iff, adjacent_iff, adjacent_iff, forth, back]

theorem hasLoops_eq_false_iff : g.hasLoops = false ↔ ∀ u, g.multiplicity u u = 0 := by
  simp only [hasLoops, List.any_eq_false, multiplicity, List.countP_eq_zero, Edge.isLoop,
    Edge.runs, Bool.and_eq_true, decide_eq_true_eq]
  constructor
  · rintro straight u e member ⟨source, target⟩
    exact straight e member (source.trans target.symm)
  · intro straight e member loop
    exact straight e.source e member ⟨rfl, loop.symm⟩

/-- The unordered pairs of the edges list a pair as often as edges join it. -/
theorem count_pairs (g : Graph) (u v : NodeId) :
    (g.edges.map Edge.pair).count s(u, v) = g.edges.countP fun e => e.joins u v := by
  rw [List.count_eq_countP, List.countP_map]
  refine List.countP_congr fun e _ => ?_
  rw [Function.comp_apply, beq_iff_eq, Edge.joins_iff_pair]

theorem isParallelFree_iff :
    g.isParallelFree false = true ↔ ∀ u v, g.edges.countP (fun e => e.joins u v) ≤ 1 := by
  have pairs : (g.edges.map fun e => e.bundle false).Nodup ↔ (g.edges.map Edge.pair).Nodup := by
    simp only [List.Nodup, List.pairwise_map, ne_eq, Edge.bundle_eq_iff_pair]
  rw [isParallelFree, parallelEdges, List.isEmpty_iff, repeated_eq_nil_iff, pairs,
    List.nodup_iff_count_le_one]
  constructor
  · rintro ⟨once, _⟩ u v
    rw [← count_pairs]
    exact once s(u, v)
  · intro once
    refine ⟨fun pair => ?_, fun _ _ => List.not_mem_nil⟩
    induction pair with | h u v =>
    rw [count_pairs]
    exact once u v

/-- A graph is simple when between two nodes, which may be one, there is at most one edge, counted
in both directions. -/
theorem isSimple_iff :
    g.isSimple = true ↔ ∀ u v, g.multiplicity u v + g.multiplicity v u ≤ 1 := by
  rw [isSimple, Bool.and_eq_true, Bool.not_eq_true', hasLoops_eq_false_iff, isParallelFree_iff]
  constructor
  · rintro ⟨straight, once⟩ u v
    by_cases same : u = v
    · subst same
      rw [straight]
      exact Nat.zero_le 1
    · rw [← countP_joins g same]
      exact once u v
  · intro once
    have straight : ∀ u, g.multiplicity u u = 0 := fun u => by have twice := once u u; omega
    refine ⟨straight, fun u v => ?_⟩
    by_cases same : u = v
    · subst same
      rw [countP_joins_self, straight]
      exact Nat.zero_le 1
    · rw [countP_joins g same]
      exact once u v

theorem hasLoops_of_isSimple (simple : g.isSimple = true) : g.hasLoops = false := by
  rw [isSimple, Bool.and_eq_true, Bool.not_eq_true'] at simple
  exact simple.1

/-- A graph without loops is simple if no two nodes are joined twice. -/
theorem isSimple_of_joined_once (straight : g.hasLoops = false)
    (once : ∀ u v, g.edges.countP (fun e => e.joins u v) ≤ 1) : g.isSimple = true := by
  rw [isSimple, straight, isParallelFree_iff.mpr once]
  rfl

/-- Edges can be taken away from a simple graph. -/
theorem isSimple_of_sublist {h : Graph} (simple : g.isSimple = true)
    (fewer : h.edges.Sublist g.edges) : h.isSimple = true := by
  apply isSimple_iff.mpr
  intro u v
  have forth : h.multiplicity u v ≤ g.multiplicity u v := fewer.countP_le
  have back : h.multiplicity v u ≤ g.multiplicity v u := fewer.countP_le
  have once := isSimple_iff.mp simple u v
  omega

/-- In a simple graph adjacent nodes have one edge between them. -/
theorem multiplicity_of_isSimple (simple : g.isSimple = true) (u v : NodeId) :
    g.multiplicity u v + g.multiplicity v u = if g.adjacent u v = true then 1 else 0 := by
  have once := isSimple_iff.mp simple u v
  split
  · rename_i joined
    have positive := adjacent_iff.mp joined
    omega
  · rename_i apart
    have zero := mt adjacent_iff.mpr apart
    omega

theorem ne_of_adjacent (simple : g.isSimple = true) (joined : g.adjacent u v = true) : u ≠ v := by
  rintro rfl
  have once := isSimple_iff.mp simple u u
  have positive := adjacent_iff.mp joined
  omega

/-- The far ends at a node of a simple graph are its neighbours. -/
theorem twins_perm_neighbours (wf : g.WellFormed) (simple : g.isSimple = true) (u : NodeId) :
    (g.twins u).Perm (g.neighbours u) := by
  have once : ∀ v, (g.twins u).count v = if g.adjacent u v = true then 1 else 0 := fun v =>
    (count_twins g u v).trans (multiplicity_of_isSimple simple u v)
  have distinct : (g.twins u).Nodup := List.nodup_iff_count_le_one.mpr fun v => by
    rw [once]
    split <;> omega
  refine (List.perm_ext_iff_of_nodup distinct (wf.nodes_nodup.filter _)).mpr fun v => ?_
  rw [mem_twins_iff_adjacent, List.mem_filter]
  refine ⟨fun joined => ⟨?_, joined⟩, And.right⟩
  exact mem_nodes_of_mem_twins wf (mem_twins_iff_adjacent.mpr joined)

/-! ## Nodes that are not adjacent -/

/-- The nodes of a simple graph are any one of them, its neighbours and the others. -/
theorem length_nodes_eq (wf : g.WellFormed) (simple : g.isSimple = true) (held : u ∈ g.nodes) :
    g.nodes.length = 1 + (g.twins u).length +
      g.nodes.countP fun v => v ≠ u && !g.adjacent u v := by
  have own : g.nodes.countP (fun v => v == u) = 1 := List.count_eq_one_of_mem wf.nodes_nodup held
  have others := g.nodes.length_eq_countP_add_countP fun v => v == u
  have parted := g.nodes.countP_eq_countP_filter_add (fun v => ¬(v == u) = true) (g.adjacent u)
  have beside : (g.nodes.filter (g.adjacent u)).countP (fun v => ¬(v == u) = true) =
      (g.twins u).length := by
    rw [(twins_perm_neighbours wf simple u).length_eq]
    refine List.countP_eq_length.mpr fun v member => ?_
    have apart := ne_of_adjacent simple (List.mem_filter.mp member).2
    simp [apart.symm]
  rw [beside, List.countP_filter] at parted
  rw [others, own, parted, ← Nat.add_assoc]
  simp

theorem two_mul_choose_two (n : Nat) : 2 * n.choose 2 + n = n * n := by
  induction n with
  | zero => rfl
  | succ n ih =>
    have pairs : (n + 1).choose 2 = n + n.choose 2 := by
      rw [Nat.choose_succ_succ', Nat.choose_one_right]
    have square : (n + 1) * (n + 1) = n * n + 2 * n + 1 := by ring
    omega

/-- From either end, a simple graph misses the edges that it has not. -/
theorem sum_apart (wf : g.WellFormed) (simple : g.isSimple = true) :
    (g.nodes.map fun u => g.nodes.countP fun v => v ≠ u && !g.adjacent u v).sum +
      2 * g.edges.length = 2 * g.nodes.length.choose 2 := by
  have rows : (g.nodes.map fun u => 1 + (g.twins u).length +
      g.nodes.countP fun v => v ≠ u && !g.adjacent u v) = g.nodes.map fun _ => g.nodes.length :=
    List.map_congr_left fun u held => (length_nodes_eq wf simple held).symm
  have total := congrArg List.sum rows
  simp only [List.sum_map_add, List.map_const', List.sum_replicate_nat, sum_length_twins wf]
    at total
  have square := two_mul_choose_two g.nodes.length
  omega

/-- Counting in a list with a new head, for each member of another list, counts besides the members
that go with the head. -/
theorem sum_countP_cons {α β : Type} (l : List α) (p : α → β → Bool) (b : β) (rest : List β) :
    (l.map fun a => (b :: rest).countP (p a)).sum =
      (l.map fun a => rest.countP (p a)).sum + l.countP fun a => p a b := by
  simp only [List.countP_cons, List.sum_map_add]
  congr 1
  induction l with
  | nil => rfl
  | cons a l ih => rw [List.map_cons, List.sum_cons, ih, List.countP_cons, Nat.add_comm]

/-- A symmetric relation relates the members of an increasing list to others twice as often as to
later ones. -/
theorem sum_countP_symm {l : List NodeId} (increasing : l.Pairwise (· < ·))
    {r : NodeId → NodeId → Bool} (symm : ∀ u v, r u v = r v u) :
    (l.map fun u => l.countP fun v => v ≠ u && r u v).sum =
      2 * (l.map fun u => l.countP fun v => u < v && r u v).sum := by
  induction increasing with
  | nil => rfl
  | @cons u rest ahead _ ih =>
    -- The head meets the rest twice: as the lesser end, and again from each of the others.
    have others : (u :: rest).countP (fun v => v ≠ u && r u v) = rest.countP (r u) := by
      rw [List.countP_cons_of_neg (by simp)]
      refine List.countP_congr fun v member => ?_
      simp [Int.ne_of_gt (ahead v member)]
    have later : (u :: rest).countP (fun v => u < v && r u v) = rest.countP (r u) := by
      rw [List.countP_cons_of_neg (by simp)]
      refine List.countP_congr fun v member => ?_
      simp [ahead v member]
    have back : rest.countP (fun v => u ≠ v && r v u) = rest.countP (r u) := by
      refine List.countP_congr fun v member => ?_
      simp [Int.ne_of_lt (ahead v member), symm u v]
    have never : rest.countP (fun v => v < u && r v u) = 0 := by
      refine List.countP_eq_zero.mpr fun v member => ?_
      simp [Int.le_of_lt (ahead v member)]
    rw [List.map_cons, List.map_cons, List.sum_cons, List.sum_cons, sum_countP_cons,
      sum_countP_cons, others, later, back, never, ih]
    omega

/-- To later nodes, a simple graph misses each edge that it has not once. -/
theorem sum_laterApart (wf : g.WellFormed) (simple : g.isSimple = true) :
    (g.nodes.map fun u => g.nodes.countP fun v => u < v && !g.adjacent u v).sum +
      g.edges.length = g.nodes.length.choose 2 := by
  have both := sum_apart wf simple
  rw [sum_countP_symm wf.nodes_increasing (r := fun u v => !g.adjacent u v)
    fun u v => by rw [adjacent_comm]] at both
  omega

end Multigraph.Graph
