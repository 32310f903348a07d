import Mathlib.Algebra.BigOperators.Ring.List
import Mathlib.Data.List.Count
import Mathlib.Tactic.Ring
import Multigraph.Proofs.Product.Rule

/-!
How many edges a product has from one pair to another. A part of a rule reaches a pair as often as
the factors have the edges it follows (`count_secondTargets` and its like), so a product reaches
it `Product.times` often (`count_targets`).
-/
namespace Multigraph

open Build Multigraph.Graph Drawing

namespace Build

/-! ## Pairs in lists of pairs -/

theorem count_row (u v w : NodeId) (l : List NodeId) :
    (l.map fun w => (u, w)).count (v, w) = if u = v then l.count w else 0 := by
  by_cases same : u = v
  · subst same
    rw [if_pos rfl]
    exact List.count_map_of_injective l (fun w => (u, w)) (Prod.mk_right_injective u) w
  · rw [if_neg same]
    refine List.count_eq_zero.mpr fun listed => ?_
    obtain ⟨_, _, meet⟩ := List.mem_map.mp listed
    exact same (congrArg Prod.fst meet)

theorem count_column (u v w : NodeId) (l : List NodeId) :
    (l.map fun v => (v, u)).count (v, w) = if u = w then l.count v else 0 := by
  by_cases same : u = w
  · subst same
    rw [if_pos rfl]
    exact List.count_map_of_injective l (fun v => (v, u)) (Prod.mk_left_injective u) v
  · rw [if_neg same]
    refine List.count_eq_zero.mpr fun listed => ?_
    obtain ⟨_, _, meet⟩ := List.mem_map.mp listed
    exact same (congrArg Prod.snd meet)

/-- A pair stands among the pairs of two lists as often as its nodes stand in them. -/
theorem count_rows (first second : List NodeId) (v w : NodeId) :
    (first.flatMap fun v => second.map fun w => (v, w)).count (v, w) =
      first.count v * second.count w := by
  induction first with
  | nil => simp
  | cons u rest ih =>
    rw [List.flatMap_cons, List.count_append, count_row, ih, List.count_cons, Nat.add_mul]
    by_cases same : u = v
    · simp [same, Nat.add_comm]
    · simp [same]

theorem count_columns (first second : List NodeId) (v w : NodeId) :
    (second.flatMap fun w => first.map fun v => (v, w)).count (v, w) =
      first.count v * second.count w := by
  induction second with
  | nil => simp
  | cons u rest ih =>
    rw [List.flatMap_cons, List.count_append, count_column, ih, List.count_cons, Nat.mul_add]
    by_cases same : u = w
    · simp [same, Nat.add_comm]
    · simp [same]

end Build

namespace Drawing

/-! ## The parts of the rules -/

variable {first second : Graph} {pair target : NodeId × NodeId}

theorem count_secondTargets (second : Graph) (pair target : NodeId × NodeId) :
    (secondTargets second pair).count target =
      if pair.1 = target.1 then second.multiplicity pair.2 target.2 else 0 := by
  rw [secondTargets, ← Prod.mk.eta (p := target), count_row, count_successors]

theorem count_firstTargets (first : Graph) (pair target : NodeId × NodeId) :
    (firstTargets first pair).count target =
      if pair.2 = target.2 then first.multiplicity pair.1 target.1 else 0 := by
  rw [firstTargets, ← Prod.mk.eta (p := target), count_column, count_successors]

theorem count_bothTargets (first second : Graph) (pair target : NodeId × NodeId) :
    (bothTargets first second pair).count target =
      (first.multiplicity pair.1 target.1 + first.multiplicity target.1 pair.1) *
        second.multiplicity pair.2 target.2 := by
  rw [bothTargets, ← Prod.mk.eta (p := target), count_rows, count_twins, count_successors]

theorem count_firstTargetsToAll (wf : second.WellFormed) (column : target.2 ∈ second.nodes) :
    (firstTargetsToAll first second pair).count target =
      first.multiplicity pair.1 target.1 := by
  rw [firstTargetsToAll, ← Prod.mk.eta (p := target), count_columns, count_successors,
    List.count_eq_one_of_mem wf.nodes_nodup column, Nat.mul_one]

theorem count_secondTargetsToAll (wf : first.WellFormed) (row : target.1 ∈ first.nodes) :
    (secondTargetsToAll first second pair).count target =
      second.multiplicity pair.2 target.2 := by
  rw [secondTargetsToAll, ← Prod.mk.eta (p := target), count_rows, count_successors,
    List.count_eq_one_of_mem wf.nodes_nodup row, Nat.one_mul]

theorem count_firstTargetsAt (root : NodeId) (first : Graph) (pair target : NodeId × NodeId) :
    (firstTargetsAt root first pair).count target =
      if pair.2 = target.2 ∧ target.2 = root then first.multiplicity pair.1 target.1 else 0 := by
  rw [firstTargetsAt]
  by_cases atRoot : pair.2 = root
  · subst atRoot
    rw [if_pos rfl, count_firstTargets]
    by_cases same : pair.2 = target.2
    · rw [if_pos same, if_pos ⟨same, same.symm⟩]
    · rw [if_neg same, if_neg fun both => same both.1]
  · rw [if_neg atRoot, if_neg fun both => atRoot (both.1.trans both.2), List.count_nil]

/-- A pair that is apart in both factors, of a later second node, is reached once. -/
theorem count_apartTargets (wf : first.WellFormed) (other : second.WellFormed)
    (row : target.1 ∈ first.nodes) (column : target.2 ∈ second.nodes) :
    (apartTargets first second pair).count target =
      if (target.1 ≠ pair.1 ∧ first.adjacent pair.1 target.1 = false) ∧
        pair.2 < target.2 ∧ second.adjacent pair.2 target.2 = false then 1 else 0 := by
  have rows := (wf.nodes_nodup.filter fun v => v ≠ pair.1 && v ∉ first.neighbours pair.1).count
    (a := target.1)
  have columns := ((other.nodes_nodup.filter fun w => decide (pair.2 < w)).filter
    fun w => w ∉ second.neighbours pair.2).count (a := target.2)
  rw [apartTargets, ← Prod.mk.eta (p := target), count_rows, rows, later, columns]
  simp only [List.mem_filter, neighbours, row, column, true_and, Bool.and_eq_true,
    decide_eq_true_eq, Bool.not_eq_true]
  split <;> split <;> simp_all

end Drawing

namespace Product

/-- How many edges a product has from the node of one pair to that of another. -/
def times (product : Product) (first second : Graph) (pair target : NodeId × NodeId) : Nat :=
  let alongFirst := first.multiplicity pair.1 target.1
  let alongSecond := second.multiplicity pair.2 target.2
  let alongBoth := (alongFirst + first.multiplicity target.1 pair.1) * alongSecond
  match product with
  | cartesian =>
    (if pair.1 = target.1 then alongSecond else 0) + if pair.2 = target.2 then alongFirst else 0
  | tensor => alongBoth
  | lexicographical => alongFirst + if pair.1 = target.1 then alongSecond else 0
  | strong =>
    ((if pair.1 = target.1 then alongSecond else 0) +
      if pair.2 = target.2 then alongFirst else 0) + alongBoth
  | coNormal => alongFirst + alongSecond
  | modular => alongBoth +
    if (target.1 ≠ pair.1 ∧ first.adjacent pair.1 target.1 = false) ∧
      pair.2 < target.2 ∧ second.adjacent pair.2 target.2 = false then 1 else 0
  | rooted root =>
    (if pair.1 = target.1 then alongSecond else 0) +
      if pair.2 = target.2 ∧ target.2 = root then alongFirst else 0

/-- A pair stands among the targets of another as often as the product has edges between them. -/
theorem count_targets (product : Product) {first second : Graph} (wf : first.WellFormed)
    (other : second.WellFormed) {pair target : NodeId × NodeId}
    (member : target ∈ pairsOf first.nodes second.nodes) :
    (product.targets first second pair).count target = product.times first second pair target := by
  obtain ⟨row, column⟩ := mem_pairsOf.mp member
  cases product with
  | cartesian => rw [targets, List.count_append, count_secondTargets, count_firstTargets]; rfl
  | tensor => exact count_bothTargets first second pair target
  | lexicographical =>
    rw [targets, List.count_append, count_firstTargetsToAll other column, count_secondTargets]
    rfl
  | strong =>
    rw [targets, List.count_append, List.count_append, count_secondTargets, count_firstTargets,
      count_bothTargets]
    rfl
  | coNormal =>
    rw [targets, List.count_append, count_firstTargetsToAll other column,
      count_secondTargetsToAll wf row]
    rfl
  | modular =>
    rw [targets, List.count_append, count_bothTargets, count_apartTargets wf other row column]
    rfl
  | rooted root =>
    rw [targets, List.count_append, count_secondTargets, count_firstTargetsAt]
    rfl

/-! ## Edges in both directions -/

variable (first second : Graph) (pair target : NodeId × NodeId)

theorem times_cartesian_add :
    times .cartesian first second pair target + times .cartesian first second target pair =
      (if pair.1 = target.1 then
          second.multiplicity pair.2 target.2 + second.multiplicity target.2 pair.2 else 0) +
        if pair.2 = target.2 then
          first.multiplicity pair.1 target.1 + first.multiplicity target.1 pair.1 else 0 := by
  simp only [times, eq_comm (a := target.1), eq_comm (a := target.2)]
  split <;> split <;> omega

theorem times_tensor_add :
    times .tensor first second pair target + times .tensor first second target pair =
      (first.multiplicity pair.1 target.1 + first.multiplicity target.1 pair.1) *
        (second.multiplicity pair.2 target.2 + second.multiplicity target.2 pair.2) := by
  simp only [times]
  ring

theorem times_lexicographical_add :
    times .lexicographical first second pair target +
        times .lexicographical first second target pair =
      (first.multiplicity pair.1 target.1 + first.multiplicity target.1 pair.1) +
        if pair.1 = target.1 then
          second.multiplicity pair.2 target.2 + second.multiplicity target.2 pair.2 else 0 := by
  simp only [times, eq_comm (a := target.1)]
  split <;> omega

theorem times_strong_add :
    times .strong first second pair target + times .strong first second target pair =
      (times .cartesian first second pair target + times .cartesian first second target pair) +
        (times .tensor first second pair target + times .tensor first second target pair) := by
  simp only [times]
  omega

theorem times_coNormal_add :
    times .coNormal first second pair target + times .coNormal first second target pair =
      (first.multiplicity pair.1 target.1 + first.multiplicity target.1 pair.1) +
        (second.multiplicity pair.2 target.2 + second.multiplicity target.2 pair.2) := by
  simp only [times]
  omega

theorem times_rooted_add (root : NodeId) :
    times (.rooted root) first second pair target + times (.rooted root) first second target pair =
      (if pair.1 = target.1 then
          second.multiplicity pair.2 target.2 + second.multiplicity target.2 pair.2 else 0) +
        if pair.2 = target.2 ∧ target.2 = root then
          first.multiplicity pair.1 target.1 + first.multiplicity target.1 pair.1 else 0 := by
  have turned : (target.2 = pair.2 ∧ pair.2 = root) ↔ (pair.2 = target.2 ∧ target.2 = root) :=
    ⟨fun both => ⟨both.1.symm, both.1.trans both.2⟩,
      fun both => ⟨both.1.symm, both.1.trans both.2⟩⟩
  simp only [times, eq_comm (a := target.1), turned]
  split <;> split <;> omega

/-- A pair that is apart from another in both coordinates has one edge with it, drawn to the later
second node. -/
theorem times_modular_add :
    times .modular first second pair target + times .modular first second target pair =
      (times .tensor first second pair target + times .tensor first second target pair) +
        if pair.1 ≠ target.1 ∧ pair.2 ≠ target.2 ∧ first.adjacent pair.1 target.1 = false ∧
          second.adjacent pair.2 target.2 = false then 1 else 0 := by
  obtain ⟨v, w⟩ := pair
  obtain ⟨v', w'⟩ := target
  have apart : (if (v' ≠ v ∧ first.adjacent v v' = false) ∧ w < w' ∧
        second.adjacent w w' = false then 1 else 0) +
      (if (v ≠ v' ∧ first.adjacent v' v = false) ∧ w' < w ∧
        second.adjacent w' w = false then 1 else 0) =
        if v ≠ v' ∧ w ≠ w' ∧ first.adjacent v v' = false ∧ second.adjacent w w' = false
          then 1 else 0 := by
    rw [first.adjacent_comm v' v, second.adjacent_comm w' w]
    rcases Int.lt_trichotomy w w' with ahead | rfl | behind
    · simp [ahead, Int.lt_asymm ahead, Int.ne_of_lt ahead, and_assoc, ne_comm]
    · simp
    · simp [behind, Int.lt_asymm behind, Int.ne_of_gt behind, and_assoc, ne_comm]
  rw [← apart]
  simp only [times]
  omega

end Product

/-! ## All edges together -/

namespace Build

/-- What is summed over all pairs is summed row by row. -/
theorem sum_map_pairsOf (first second : List NodeId) (f : NodeId × NodeId → Nat) :
    ((pairsOf first second).map f).sum =
      (first.map fun v => (second.map fun w => f (v, w)).sum).sum := by
  rw [pairsOf, List.map_flatMap]
  induction first with
  | nil => rfl
  | cons v rest ih =>
    rw [List.flatMap_cons, List.sum_append, ih, List.map_map, List.map_cons, List.sum_cons]
    rfl

theorem length_flatMap_append {α β : Type} (l : List α) (f g : α → List β) :
    (l.flatMap fun a => f a ++ g a).length = (l.flatMap f).length + (l.flatMap g).length := by
  simp only [List.length_flatMap, List.length_append, List.sum_map_add]

end Build

namespace Drawing

variable {first second : Graph}

/-- Every edge of the second factor is in every copy of it. -/
theorem length_secondTargets (first : Graph) (wf : second.WellFormed) :
    ((pairsOf first.nodes second.nodes).flatMap (secondTargets second)).length =
      second.edges.length * first.nodes.length := by
  rw [List.length_flatMap, sum_map_pairsOf]
  simp only [secondTargets, List.length_map, sum_length_successors wf, List.map_const',
    List.sum_replicate_nat]
  exact Nat.mul_comm _ _

/-- Every edge of the first factor is in every copy of it. -/
theorem length_firstTargets (wf : first.WellFormed) (second : Graph) :
    ((pairsOf first.nodes second.nodes).flatMap (firstTargets first)).length =
      first.edges.length * second.nodes.length := by
  rw [List.length_flatMap, sum_map_pairsOf]
  simp only [firstTargets, List.length_map, List.map_const', List.sum_replicate_nat,
    List.sum_map_mul_left, sum_length_successors wf]
  exact Nat.mul_comm _ _

/-- Every edge of the first factor, followed from either end, goes with every edge of the second. -/
theorem length_bothTargets (wf : first.WellFormed) (other : second.WellFormed) :
    ((pairsOf first.nodes second.nodes).flatMap (bothTargets first second)).length =
      2 * first.edges.length * second.edges.length := by
  rw [List.length_flatMap, sum_map_pairsOf]
  simp only [bothTargets, List.length_flatMap, List.length_map, List.map_const',
    List.sum_replicate_nat, List.sum_map_mul_left, List.sum_map_mul_right,
    sum_length_successors other, sum_length_twins wf]

/-- Every edge of the first factor leads from every copy of it to every copy. -/
theorem length_firstTargetsToAll (wf : first.WellFormed) (second : Graph) :
    ((pairsOf first.nodes second.nodes).flatMap (firstTargetsToAll first second)).length =
      first.edges.length * second.nodes.length ^ 2 := by
  rw [List.length_flatMap, sum_map_pairsOf]
  simp only [firstTargetsToAll, List.length_flatMap, List.length_map, List.map_const',
    List.sum_replicate_nat, List.sum_map_mul_left, sum_length_successors wf]
  ring

/-- Every edge of the second factor leads from every copy of it to every copy. -/
theorem length_secondTargetsToAll (first : Graph) (wf : second.WellFormed) :
    ((pairsOf first.nodes second.nodes).flatMap (secondTargetsToAll first second)).length =
      second.edges.length * first.nodes.length ^ 2 := by
  rw [List.length_flatMap, sum_map_pairsOf]
  simp only [secondTargetsToAll, List.length_flatMap, List.length_map, List.map_const',
    List.sum_replicate_nat, List.sum_map_mul_left, sum_length_successors wf]
  ring

/-- Every edge of the first factor is in the one copy of it at the root. -/
theorem length_firstTargetsAt (wf : first.WellFormed) (other : second.WellFormed) {root : NodeId}
    (held : root ∈ second.nodes) :
    ((pairsOf first.nodes second.nodes).flatMap (firstTargetsAt root first)).length =
      first.edges.length := by
  have single : ∀ v w, (firstTargetsAt root first (v, w)).length =
      if w = root then (first.successors v).length else 0 := by
    intro v w
    rw [firstTargetsAt, firstTargets]
    split
    · exact List.length_map _
    · rfl
  rw [List.length_flatMap, sum_map_pairsOf]
  simp only [single, sum_single other.nodes_nodup, held, if_true, sum_length_successors wf]

end Drawing

end Multigraph
