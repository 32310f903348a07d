import Multigraph.Proofs.Product.Pairs

/-!
The modular product. Besides the edges of the tensor product it has one for every two pairs that
are apart in both factors, drawn to the pair of the later second node. Of simple factors it is
simple: its pairs are joined when they differ in both coordinates and the factors agree on whether
these are adjacent (`times_modular_of_isSimple`). The number of its edges then takes only the sizes
of the factors (`modular_product_exact`).
-/
namespace Multigraph

open Multigraph.Action Multigraph.Graph Build Drawing

namespace Drawing

variable {first second : Graph}

theorem length_apartTargets (first second : Graph) (v w : NodeId) :
    (apartTargets first second (v, w)).length =
      (first.nodes.countP fun v' => v' ≠ v && !first.adjacent v v') *
        second.nodes.countP fun w' => w < w' && !second.adjacent w w' := by
  have rows : (first.nodes.filter fun v' => v' ≠ v && v' ∉ first.neighbours v).length =
      first.nodes.countP fun v' => v' ≠ v && !first.adjacent v v' := by
    rw [← List.countP_eq_length_filter]
    refine List.countP_congr fun v' member => ?_
    simp [neighbours, member]
  have columns : ((second.later w).filter fun w' => w' ∉ second.neighbours w).length =
      second.nodes.countP fun w' => w < w' && !second.adjacent w w' := by
    rw [later, List.filter_filter, ← List.countP_eq_length_filter]
    refine List.countP_congr fun w' member => ?_
    simp [neighbours, member, and_comm]
  rw [apartTargets, List.length_flatMap]
  simp only [List.length_map, List.map_const', List.sum_replicate_nat, rows, columns]

/-- Two edges missing from simple factors, one from each, give two edges. -/
theorem length_flatMap_apartTargets (wf : first.WellFormed) (other : second.WellFormed)
    (simple : first.isSimple = true) (simple' : second.isSimple = true) :
    (((pairsOf first.nodes second.nodes).flatMap (apartTargets first second)).length : ℤ) =
      2 * ((first.nodes.length.choose 2 - first.edges.length) *
        (second.nodes.length.choose 2 - second.edges.length)) := by
  obtain ⟨rows, all⟩ : ∃ rows, rows = (first.nodes.map fun u =>
    first.nodes.countP fun v => v ≠ u && !first.adjacent u v).sum := ⟨_, rfl⟩
  obtain ⟨columns, ahead⟩ : ∃ columns, columns = (second.nodes.map fun u =>
    second.nodes.countP fun v => u < v && !second.adjacent u v).sum := ⟨_, rfl⟩
  have missing := sum_apart wf simple
  have missing' := sum_laterApart other simple'
  rw [← all] at missing
  rw [← ahead] at missing'
  have total : ((pairsOf first.nodes second.nodes).flatMap (apartTargets first second)).length =
      rows * columns := by
    rw [List.length_flatMap, sum_map_pairsOf]
    simp only [length_apartTargets, List.sum_map_mul_left, List.sum_map_mul_right]
    rw [all, ahead]
  have twice : (rows : ℤ) = 2 * (first.nodes.length.choose 2 - first.edges.length) := by omega
  have once : (columns : ℤ) = second.nodes.length.choose 2 - second.edges.length := by omega
  rw [total, Nat.cast_mul, twice, once, mul_assoc]

end Drawing

namespace Product

/-- Counted in both directions, a modular product of simple factors has one edge between pairs
that differ in both coordinates, if these are adjacent in both factors or in neither. -/
theorem times_modular_of_isSimple {first second : Graph} (simple : first.isSimple = true)
    (simple' : second.isSimple = true) (pair target : NodeId × NodeId) :
    times .modular first second pair target + times .modular first second target pair =
      if pair.1 ≠ target.1 ∧ pair.2 ≠ target.2 ∧
        first.adjacent pair.1 target.1 = second.adjacent pair.2 target.2 then 1 else 0 := by
  have differ : first.adjacent pair.1 target.1 = true → pair.1 ≠ target.1 := ne_of_adjacent simple
  have differ' : second.adjacent pair.2 target.2 = true → pair.2 ≠ target.2 :=
    ne_of_adjacent simple'
  rw [times_modular_add, times_tensor_add, multiplicity_of_isSimple simple,
    multiplicity_of_isSimple simple']
  cases besides : first.adjacent pair.1 target.1 <;>
    cases besides' : second.adjacent pair.2 target.2 <;>
      simp [besides, besides', differ, differ']

namespace Built

variable {first second before after : Graph} {grid : Grid}

/-- In a modular product of simple factors the nodes of two pairs are joined at most once. -/
theorem joined_once (built : Product.Built .modular first second before after grid)
    (simple : first.isSimple = true) (simple' : second.isSimple = true) {v v' w w' : NodeId}
    (row : v ∈ first.nodes) (column : w ∈ second.nodes) (row' : v' ∈ first.nodes)
    (column' : w' ∈ second.nodes) {source target : NodeId}
    (starts : grid.node? v w = some source) (ends : grid.node? v' w' = some target) :
    after.multiplicity source target + after.multiplicity target source =
      if v ≠ v' ∧ w ≠ w' ∧ first.adjacent v v' = second.adjacent w w' then 1 else 0 := by
  rw [built.counted v row w column v' row' w' column' source target starts ends,
    built.counted v' row' w' column' v row w column target source ends starts]
  exact times_modular_of_isSimple simple simple' (v, w) (v', w')

theorem isSimple (built : Product.Built .modular first second before after grid)
    (simple : first.isSimple = true) (simple' : second.isSimple = true) :
    after.isSimple = true := by
  refine built.isSimple_of_times_le fun pair target => ?_
  rw [times_modular_of_isSimple simple simple']
  split <;> omega

/-- Two nodes of a modular product of simple factors are joined by one edge if their pairs differ
in both coordinates and these are adjacent in both factors or in neither. -/
theorem countP_joins (built : Product.Built .modular first second before after grid)
    (simple : first.isSimple = true) (simple' : second.isSimple = true) {v v' w w' : NodeId}
    (row : v ∈ first.nodes) (column : w ∈ second.nodes) (row' : v' ∈ first.nodes)
    (column' : w' ∈ second.nodes) {source target : NodeId}
    (starts : grid.node? v w = some source) (ends : grid.node? v' w' = some target) :
    after.edges.countP (fun e => e.joins source target) =
      if v ≠ v' ∧ w ≠ w' ∧ first.adjacent v v' = second.adjacent w w' then 1 else 0 := by
  have once := built.joined_once simple simple' row column row' column' starts ends
  by_cases same : source = target
  · subst same
    rw [countP_joins_self]
    split at once
    · omega
    · rename_i differ
      rw [if_neg differ]
      omega
  · rw [Graph.countP_joins after same, once]

end Built

end Product

namespace Workspace

variable {w : Workspace} {first second destination : GraphId} {grid : Option GridId}

/-- In every workspace that commands lead to, a modular product into a graph that is neither factor
succeeds and leaves exactly the edges of the product. If the factors are simple so is the product:
two pairs are joined, once, when they differ in both coordinates and these are adjacent in both
factors or in neither, and the sizes of the factors tell how many edges there are. -/
theorem modular_product_exact (admits : w.Admits first second destination grid) :
    ∃ after id, w.Builds (.text "modular") first second destination grid .modular after id ∧
      ((w.graph first).isSimple = true → (w.graph second).isSimple = true →
        (after.graph destination).isSimple = true ∧
        (∀ v ∈ (w.graph first).nodes, ∀ x ∈ (w.graph second).nodes,
          ∀ v' ∈ (w.graph first).nodes, ∀ x' ∈ (w.graph second).nodes, ∀ source target,
            (after.grid id).node? v x = some source → (after.grid id).node? v' x' = some target →
              (after.graph destination).edges.countP (fun e => e.joins source target) =
                if v ≠ v' ∧ x ≠ x' ∧
                  (w.graph first).adjacent v v' = (w.graph second).adjacent x x' then 1 else 0) ∧
        ((after.graph destination).edges.length : ℤ) =
          2 * ((w.graph first).edges.length * (w.graph second).edges.length +
            ((w.graph first).nodes.length.choose 2 - (w.graph first).edges.length) *
              ((w.graph second).nodes.length.choose 2 - (w.graph second).edges.length))) := by
  obtain ⟨after, id, builds, edges⟩ := admits.builds (.text "modular") rfl rfl
  refine ⟨after, id, builds, fun simple simple' => ?_⟩
  refine ⟨builds.built.isSimple simple simple', ?_, ?_⟩
  · intro v row x column v' row' x' column' source target starts ends
    exact builds.built.countP_joins simple simple' row column row' column' starts ends
  · have wf := admits.reached.wellFormed first
    have other := admits.reached.wellFormed second
    rw [edges]
    unfold Product.targets
    rw [length_flatMap_append, length_bothTargets wf other, Nat.cast_add,
      length_flatMap_apartTargets wf other simple simple', Nat.cast_mul, Nat.cast_mul]
    ring

/-- Two simple factors: a path of three nodes with gaps in the handles, and three nodes with one
edge. -/
def simpleFactors : List Command :=
  [.newGraph, .newNode 0, .newNode 0, .deleteNode 0 0, .newNode 0, .newNode 0, .newEdge 0 2 1,
    .newEdge 0 2 3, .newGraph, .newNode 1, .newNode 1, .newNode 1, .newEdge 1 2 0, .newGraph]

theorem modular_product_exact_simpleFactors :
    (runAll {} simpleFactors).Admits 0 1 2 none ∧
    ((runAll {} simpleFactors).graph 0).isSimple = true ∧
    ((runAll {} simpleFactors).graph 1).isSimple = true ∧
    ∃ after id, (runAll {} simpleFactors).Builds (.text "modular") 0 1 2 none .modular after id ∧
      (after.graph 2).isSimple = true ∧ (after.graph 2).edges.length = 8 := by
  have admits : (runAll {} simpleFactors).Admits 0 1 2 none := by
    refine ⟨reachable_runAll .empty ?_, by decide, by decide, by decide +kernel, by simp⟩
    simp [simpleFactors, Command.Proper]
  have simple : ((runAll {} simpleFactors).graph 0).isSimple = true := by decide +kernel
  have simple' : ((runAll {} simpleFactors).graph 1).isSimple = true := by decide +kernel
  obtain ⟨after, id, builds, facts⟩ := modular_product_exact admits
  obtain ⟨simpleToo, _, edges⟩ := facts simple simple'
  refine ⟨admits, simple, simple', after, id, builds, simpleToo, Int.ofNat.inj ?_⟩
  exact edges.trans (by decide +kernel)

end Workspace

end Multigraph
