import Multigraph.Proofs.Product.Modular

/-!
Products of simple graphs. In a simple graph adjacent nodes differ, so of the ways in which a
product joins two pairs no two apply at once, but for the co-normal product: all others are simple
(`times_le_one_of_isSimple`). A co-normal product joins two pairs once for each coordinate in which
they are adjacent (`Built.joinsByCoordinates`).
-/
namespace Multigraph

open Multigraph.Graph Build

namespace Product

variable {product : Product} {first second before after : Graph} {grid : Grid}

/-- Of simple factors no product but the co-normal one joins two pairs more than once. -/
theorem times_le_one_of_isSimple (plain : product ≠ .coNormal) (simple : first.isSimple = true)
    (simple' : second.isSimple = true) (pair target : NodeId × NodeId) :
    product.times first second pair target + product.times first second target pair ≤ 1 := by
  have differ : first.adjacent pair.1 target.1 = true → pair.1 ≠ target.1 := ne_of_adjacent simple
  have differ' : second.adjacent pair.2 target.2 = true → pair.2 ≠ target.2 :=
    ne_of_adjacent simple'
  have once := multiplicity_of_isSimple simple pair.1 target.1
  have once' := multiplicity_of_isSimple simple' pair.2 target.2
  cases product with
  | coNormal => exact absurd rfl plain
  | cartesian =>
    rw [times_cartesian_add, once, once']
    grind
  | tensor =>
    rw [times_tensor_add, once, once']
    split <;> split <;> decide
  | lexicographical =>
    rw [times_lexicographical_add, once, once']
    grind
  | strong =>
    rw [times_strong_add, times_cartesian_add, times_tensor_add, once, once']
    grind
  | modular =>
    rw [times_modular_of_isSimple simple simple']
    split <;> omega
  | rooted root =>
    rw [times_rooted_add, once, once']
    grind

/-- A co-normal product of graphs without loops joins no pair with itself. -/
theorem times_coNormal_self (straight : first.hasLoops = false)
    (straight' : second.hasLoops = false) (pair : NodeId × NodeId) :
    times .coNormal first second pair pair = 0 :=
  congrArg₂ Nat.add (hasLoops_eq_false_iff.mp straight pair.1)
    (hasLoops_eq_false_iff.mp straight' pair.2)

/-- A graph has no loops, and two of its nodes that stand for pairs of nodes of two others are
joined once for each coordinate in which the pairs are adjacent. -/
structure JoinsByCoordinates (first second after : Graph) (grid : Grid) : Prop where
  straight : after.hasLoops = false
  counted : ∀ pair ∈ pairsOf first.nodes second.nodes,
    ∀ target ∈ pairsOf first.nodes second.nodes, ∀ source sink,
      grid.node? pair.1 pair.2 = some source → grid.node? target.1 target.2 = some sink →
        after.edges.countP (fun e => e.joins source sink) =
          (if first.adjacent pair.1 target.1 = true then 1 else 0) +
            if second.adjacent pair.2 target.2 = true then 1 else 0

theorem Built.joinsByCoordinates (built : Product.Built .coNormal first second before after grid)
    (simple : first.isSimple = true) (simple' : second.isSimple = true) :
    JoinsByCoordinates first second after grid where
  straight := built.hasLoops_of_times_eq
    (times_coNormal_self (hasLoops_of_isSimple simple) (hasLoops_of_isSimple simple'))
  counted := by
    intro pair start target goal source sink starts ends
    obtain ⟨u, v, stands⟩ := built.stands start goal
    obtain rfl : source = u := Option.some.inj (starts.symm.trans stands.source_eq)
    obtain rfl : sink = v := Option.some.inj (ends.symm.trans stands.sink_eq)
    have both := times_coNormal_add first second pair target
    rw [multiplicity_of_isSimple simple, multiplicity_of_isSimple simple'] at both
    by_cases same : source = sink
    · subst same
      obtain rfl := stands.same_iff.mp rfl
      have never := times_coNormal_self (hasLoops_of_isSimple simple) (hasLoops_of_isSimple simple')
        pair
      rw [countP_joins_self, stands.forth]
      omega
    · rw [Graph.countP_joins after same, stands.forth, stands.back, both]

end Product

end Multigraph
