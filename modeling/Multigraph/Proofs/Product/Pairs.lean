import Multigraph.Proofs.Graph.Simple
import Multigraph.Proofs.Product.Basic

/-!
Products read by pairs. Two runs give the nodes of a pair different handles, so the edges of
products are counted between pairs, through their grids: from one pair to another
(`multiplicity?_eq`), or between them in either direction (`links?_eq`). In a product that is a
factor of another, nodes stand for pairs, and different nodes for different pairs (`Stands`). Nodes
of a product that are adjacent stand for pairs, so a product is simple if it joins no two pairs
twice (`isSimple_of_times_le`).
-/
namespace Multigraph

open Multigraph.Graph Build

namespace Grid

/-- The number of edges from the node of one pair to the node of another, if both have one. -/
def multiplicity? (grid : Grid) (g : Graph) (pair target : NodeId × NodeId) : Option Nat := do
  let source ← grid.node? pair.1 pair.2
  let sink ← grid.node? target.1 target.2
  return g.multiplicity source sink

/-- The number of edges between the nodes of two pairs, in either direction. -/
def links? (grid : Grid) (g : Graph) (pair target : NodeId × NodeId) : Option Nat := do
  let source ← grid.node? pair.1 pair.2
  let sink ← grid.node? target.1 target.2
  return g.edges.countP fun e => e.joins source sink

end Grid

namespace Product

/-- How many edges a product has between the nodes of two pairs, in either direction. A loop is
one edge. -/
def links (product : Product) (first second : Graph) (pair target : NodeId × NodeId) : Nat :=
  if pair = target then product.times first second pair pair
  else product.times first second pair target + product.times first second target pair

/-- Two nodes of a product stand for two pairs of nodes of its factors. -/
structure Stands (product : Product) (first second after : Graph) (grid : Grid)
    (pair target : NodeId × NodeId) (source sink : NodeId) : Prop where
  start : pair ∈ pairsOf first.nodes second.nodes
  goal : target ∈ pairsOf first.nodes second.nodes
  source_eq : grid.node? pair.1 pair.2 = some source
  sink_eq : grid.node? target.1 target.2 = some sink
  source_mem : source ∈ after.nodes
  sink_mem : sink ∈ after.nodes
  same_iff : source = sink ↔ pair = target
  forth : after.multiplicity source sink = product.times first second pair target
  back : after.multiplicity sink source = product.times first second target pair

variable {product : Product} {first second before after : Graph} {grid : Grid}
  {pair target : NodeId × NodeId}

/-- Every pair has a node. -/
theorem Built.node_mem (built : product.Built first second before after grid)
    (held : pair ∈ pairsOf first.nodes second.nodes) :
    handleOf before.nextNode (pairsOf first.nodes second.nodes) pair ∈ after.nodes := by
  rw [built.nodes_eq, ← length_pairsOf]
  exact handleOf_mem held

/-- In a product there are nodes for all pairs. -/
theorem Built.stands (built : product.Built first second before after grid)
    (start : pair ∈ pairsOf first.nodes second.nodes)
    (goal : target ∈ pairsOf first.nodes second.nodes) :
    ∃ source sink, Stands product first second after grid pair target source sink := by
  obtain ⟨row, column⟩ := mem_pairsOf.mp start
  obtain ⟨row', column'⟩ := mem_pairsOf.mp goal
  have starts := built.placed _ row _ column
  have ends := built.placed _ row' _ column'
  refine ⟨_, _, start, goal, starts, ends, built.node_mem start, built.node_mem goal, ?_, ?_, ?_⟩
  · exact ⟨handleOf_inj start, congrArg _⟩
  · exact built.counted _ row _ column _ row' _ column' _ _ starts ends
  · exact built.counted _ row' _ column' _ row _ column _ _ ends starts

/-- Two nodes stand for pairs whichever of them is named first. -/
theorem Stands.symm {source sink : NodeId}
    (stands : Stands product first second after grid pair target source sink) :
    Stands product first second after grid target pair sink source where
  start := stands.goal
  goal := stands.start
  source_eq := stands.sink_eq
  sink_eq := stands.source_eq
  source_mem := stands.sink_mem
  sink_mem := stands.source_mem
  same_iff := by rw [eq_comm, stands.same_iff, eq_comm]
  forth := stands.back
  back := stands.forth

/-- In a product all nodes that are adjacent stand for pairs. -/
theorem Built.stands_of_adjacent (built : product.Built first second before after grid)
    {source sink : NodeId} (joined : after.adjacent source sink = true) :
    ∃ pair target, Stands product first second after grid pair target source sink := by
  obtain ⟨e, drawn, joins⟩ := List.any_eq_true.mp joined
  obtain ⟨⟨v, row, w, column, starts⟩, v', row', w', column', ends⟩ := built.nothing_else e drawn
  have start : (v, w) ∈ pairsOf first.nodes second.nodes := mem_pairsOf.mpr ⟨row, column⟩
  have goal : (v', w') ∈ pairsOf first.nodes second.nodes := mem_pairsOf.mpr ⟨row', column'⟩
  obtain ⟨u, u', stands⟩ := built.stands start goal
  obtain rfl : e.source = u := Option.some.inj (starts.symm.trans stands.source_eq)
  obtain rfl : e.target = u' := Option.some.inj (ends.symm.trans stands.sink_eq)
  simp only [Edge.joins, Edge.runs, Bool.or_eq_true, Bool.and_eq_true, decide_eq_true_eq] at joins
  cases joins with
  | inl forth =>
    obtain ⟨rfl, rfl⟩ := forth
    exact ⟨_, _, stands⟩
  | inr back =>
    obtain ⟨rfl, rfl⟩ := back
    exact ⟨_, _, stands.symm⟩

/-- A product that joins no two pairs twice is simple. -/
theorem Built.isSimple_of_times_le (built : product.Built first second before after grid)
    (once : ∀ pair target,
      product.times first second pair target + product.times first second target pair ≤ 1) :
    after.isSimple = true := by
  apply isSimple_iff.mpr
  intro source sink
  by_cases joined : after.adjacent source sink = true
  · obtain ⟨pair, target, stands⟩ := built.stands_of_adjacent joined
    rw [stands.forth, stands.back]
    exact once pair target
  · have zero := mt adjacent_iff.mpr joined
    omega

/-- A product that joins no pair with itself has no loops. -/
theorem Built.hasLoops_of_times_eq (built : product.Built first second before after grid)
    (apart : ∀ pair, product.times first second pair pair = 0) : after.hasLoops = false := by
  apply hasLoops_eq_false_iff.mpr
  intro node
  by_cases joined : after.adjacent node node = true
  · obtain ⟨pair, target, stands⟩ := built.stands_of_adjacent joined
    obtain rfl := stands.same_iff.mp rfl
    rw [stands.forth]
    exact apart pair
  · have zero := mt adjacent_iff.mpr joined
    omega

theorem Built.multiplicity?_eq (built : product.Built first second before after grid)
    (start : pair ∈ pairsOf first.nodes second.nodes)
    (goal : target ∈ pairsOf first.nodes second.nodes) :
    grid.multiplicity? after pair target = some (product.times first second pair target) := by
  obtain ⟨source, sink, stands⟩ := built.stands start goal
  simp only [Grid.multiplicity?, stands.source_eq, stands.sink_eq, ← stands.forth]
  rfl

theorem Built.links?_eq (built : product.Built first second before after grid)
    (start : pair ∈ pairsOf first.nodes second.nodes)
    (goal : target ∈ pairsOf first.nodes second.nodes) :
    grid.links? after pair target = some (product.links first second pair target) := by
  obtain ⟨source, sink, stands⟩ := built.stands start goal
  have counted : after.edges.countP (fun e => e.joins source sink) =
      product.links first second pair target := by
    rw [links]
    by_cases same : pair = target
    · subst same
      obtain rfl := stands.same_iff.mpr rfl
      rw [if_pos rfl, countP_joins_self, stands.forth]
    · have apart : source ≠ sink := fun meet => same (stands.same_iff.mp meet)
      rw [if_neg same, Graph.countP_joins after apart, stands.forth, stands.back]
  simp only [Grid.links?, stands.source_eq, stands.sink_eq, ← counted]
  rfl

end Product

end Multigraph
