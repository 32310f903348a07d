import Mathlib.Data.Multiset.AddSub
import Multigraph.Proofs.Product.Basic

/-!
The tensor product and the strong product, which adds it to the cartesian one. Two runs give the
nodes of a pair different handles, so products are compared by coordinates: the pairs between whose
nodes their edges run. Every edge of a product has coordinates, and coordinates occur as often as
the product has edges there (`count_coordinates`). Hence the edges of a strong product are those of
the other two together, whatever the handles (`tensor_and_strong_products_exact`).
-/
namespace Multigraph

open Multigraph.Action Multigraph.Graph Build Drawing

namespace Grid

/-- The pair of nodes of two graphs whose node in the grid a node is. -/
def pairOf? (grid : Grid) (first second : Graph) (node : NodeId) : Option (NodeId × NodeId) :=
  (pairsOf first.nodes second.nodes).find? fun pair => grid.node? pair.1 pair.2 = some node

/-- The pairs between whose nodes the edges of a graph run, source first. -/
def coordinates (grid : Grid) (first second product : Graph) :
    Multiset (Option (NodeId × NodeId) × Option (NodeId × NodeId)) :=
  product.edges.map fun e =>
    (grid.pairOf? first second e.source, grid.pairOf? first second e.target)

end Grid

namespace Product.Built

variable {product : Product} {first second before after : Graph} {grid : Grid}

/-- In the grid of a product a node is that of one pair at most. -/
theorem pairOf?_eq_some (built : product.Built first second before after grid)
    {pair : NodeId × NodeId} (member : pair ∈ pairsOf first.nodes second.nodes) (node : NodeId) :
    grid.pairOf? first second node = some pair ↔ grid.node? pair.1 pair.2 = some node := by
  have place : ∀ other ∈ pairsOf first.nodes second.nodes, grid.node? other.1 other.2 =
      some (handleOf before.nextNode (pairsOf first.nodes second.nodes) other) := by
    intro other held
    obtain ⟨row, column⟩ := mem_pairsOf.mp held
    exact built.placed other.1 row other.2 column
  constructor
  · intro found
    simpa using List.find?_some found
  · intro own
    cases found : grid.pairOf? first second node with
    | none =>
      have nowhere := List.find?_eq_none.mp found pair member
      simp [own] at nowhere
    | some other =>
      have held := List.mem_of_find?_eq_some found
      have there : grid.node? other.1 other.2 = some node := by simpa using List.find?_some found
      rw [place other held] at there
      rw [place pair member] at own
      rw [handleOf_inj held (Option.some.inj (there.trans own.symm))]

/-- Every edge of a product runs between nodes of pairs. -/
theorem of_mem_coordinates (built : product.Built first second before after grid)
    {x : Option (NodeId × NodeId) × Option (NodeId × NodeId)}
    (listed : x ∈ grid.coordinates first second after) :
    ∃ pair ∈ pairsOf first.nodes second.nodes, ∃ target ∈ pairsOf first.nodes second.nodes,
      x = (some pair, some target) := by
  obtain ⟨e, drawn, rfl⟩ := List.mem_map.mp (Multiset.mem_coe.mp listed)
  obtain ⟨⟨v, row, w, column, source⟩, v', row', w', column', target⟩ :=
    built.nothing_else e drawn
  have start : (v, w) ∈ pairsOf first.nodes second.nodes := mem_pairsOf.mpr ⟨row, column⟩
  have goal : (v', w') ∈ pairsOf first.nodes second.nodes := mem_pairsOf.mpr ⟨row', column'⟩
  exact ⟨_, start, _, goal, Prod.ext ((built.pairOf?_eq_some start e.source).mpr source)
    ((built.pairOf?_eq_some goal e.target).mpr target)⟩

/-- Coordinates occur as often as the product has edges between the two pairs. -/
theorem count_coordinates (built : product.Built first second before after grid)
    {pair target : NodeId × NodeId} (start : pair ∈ pairsOf first.nodes second.nodes)
    (goal : target ∈ pairsOf first.nodes second.nodes) :
    (grid.coordinates first second after).count (some pair, some target) =
      product.times first second pair target := by
  obtain ⟨row, column⟩ := mem_pairsOf.mp start
  obtain ⟨row', column'⟩ := mem_pairsOf.mp goal
  have source := built.placed _ row _ column
  have sink := built.placed _ row' _ column'
  rw [← built.counted _ row _ column _ row' _ column' _ _ source sink, Grid.coordinates,
    Multiset.count, Multiset.coe_countP, List.countP_map, Graph.multiplicity]
  refine List.countP_congr fun e _ => ?_
  have starts : some pair = grid.pairOf? first second e.source ↔
      e.source = handleOf before.nextNode (pairsOf first.nodes second.nodes) pair := by
    rw [eq_comm, built.pairOf?_eq_some start, source, Option.some.injEq, eq_comm]
  have ends : some target = grid.pairOf? first second e.target ↔
      e.target = handleOf before.nextNode (pairsOf first.nodes second.nodes) target := by
    rw [eq_comm, built.pairOf?_eq_some goal, sink, Option.some.injEq, eq_comm]
  simp only [Function.comp_apply, Prod.mk.injEq, starts, ends, Edge.runs, Bool.and_eq_true,
    decide_eq_true_eq]

end Product.Built

/-- By coordinates, a strong product has the edges of a cartesian and of a tensor product. -/
theorem Product.strong_coordinates {first second f f' g g' h h' : Graph} {i j k : Grid}
    (cartesian : Built .cartesian first second f f' i) (tensor : Built .tensor first second g g' j)
    (strong : Built .strong first second h h' k) :
    k.coordinates first second h' =
      i.coordinates first second f' + j.coordinates first second g' := by
  refine Multiset.ext.mpr fun x => ?_
  rw [Multiset.count_add]
  by_cases within : ∃ pair ∈ pairsOf first.nodes second.nodes,
      ∃ target ∈ pairsOf first.nodes second.nodes, x = (some pair, some target)
  · obtain ⟨pair, start, target, goal, rfl⟩ := within
    rw [cartesian.count_coordinates start goal, tensor.count_coordinates start goal,
      strong.count_coordinates start goal]
    rfl
  · have absent : ∀ {product : Product} {before after : Graph} {grid : Grid},
        product.Built first second before after grid →
          (grid.coordinates first second after).count x = 0 := fun built =>
      Multiset.count_eq_zero.mpr fun listed => within (built.of_mem_coordinates listed)
    rw [absent cartesian, absent tensor, absent strong]

namespace Workspace

/-- In every workspace that commands lead to, tensor and strong products into a graph that is
neither factor succeed and leave exactly the edges of these products, as many as the sizes of the
factors say. The strong product has by coordinates the edges of a cartesian and of a tensor product
of the same factors, though each of the three may be built in a workspace of its own. -/
theorem tensor_and_strong_products_exact {u v w : Workspace} {first second d d' d'' : GraphId}
    {grid grid' grid'' : Option GridId} (forCartesian : u.Admits first second d grid)
    (forTensor : v.Admits first second d' grid') (forStrong : w.Admits first second d'' grid'')
    (factor : u.graph first = w.graph first) (cofactor : u.graph second = w.graph second)
    (factor' : v.graph first = w.graph first) (cofactor' : v.graph second = w.graph second) :
    ∃ u' i v' j w' k,
      u.Builds (.text "cartesian") first second d grid .cartesian u' i ∧
      v.Builds (.text "tensor") first second d' grid' .tensor v' j ∧
      w.Builds (.text "strong") first second d'' grid'' .strong w' k ∧
      (v'.graph d').edges.length =
        2 * (w.graph first).edges.length * (w.graph second).edges.length ∧
      (w'.graph d'').edges.length =
        (w.graph first).edges.length * (w.graph second).nodes.length +
          (w.graph second).edges.length * (w.graph first).nodes.length +
          2 * (w.graph first).edges.length * (w.graph second).edges.length ∧
      (w'.grid k).coordinates (w.graph first) (w.graph second) (w'.graph d'') =
        (u'.grid i).coordinates (w.graph first) (w.graph second) (u'.graph d) +
          (v'.grid j).coordinates (w.graph first) (w.graph second) (v'.graph d') ∧
      ∀ x ∈ (w'.grid k).coordinates (w.graph first) (w.graph second) (w'.graph d''),
        x.1.isSome ∧ x.2.isSome := by
  obtain ⟨u', i, cartesian, _⟩ := forCartesian.builds (.text "cartesian") rfl rfl
  obtain ⟨v', j, tensor, tensorEdges⟩ := forTensor.builds (.text "tensor") rfl rfl
  obtain ⟨w', k, strong, strongEdges⟩ := forStrong.builds (.text "strong") rfl rfl
  have built := cartesian.built
  have built' := tensor.built
  rw [factor, cofactor] at built
  rw [factor', cofactor'] at built' tensorEdges
  have wf := forStrong.reached.wellFormed first
  have other := forStrong.reached.wellFormed second
  refine ⟨u', i, v', j, w', k, cartesian, tensor, strong, ?_, ?_,
    Product.strong_coordinates built built' strong.built, fun x listed => ?_⟩
  · rw [tensorEdges]
    exact length_bothTargets wf other
  · rw [strongEdges]
    unfold Product.targets
    rw [length_flatMap_append, length_flatMap_append, length_secondTargets _ other,
      length_firstTargets wf, length_bothTargets wf other]
    omega
  · obtain ⟨pair, _, target, _, rfl⟩ := strong.built.of_mem_coordinates listed
    exact ⟨rfl, rfl⟩

theorem tensor_and_strong_products_exact_factors :
    (runAll {} factors).Admits 0 1 2 none ∧
    (runAll {} (factors ++ [.newGraph])).Admits 0 1 3 none ∧
    ∃ u i v j w k,
      (runAll {} factors).Builds (.text "cartesian") 0 1 2 none .cartesian u i ∧
      (runAll {} (factors ++ [.newGraph])).Builds (.text "tensor") 0 1 3 none .tensor v j ∧
      (runAll {} factors).Builds (.text "strong") 0 1 2 none .strong w k ∧
      (v.graph 3).edges.length = 18 ∧ (w.graph 2).edges.length = 30 ∧
      (w.grid k).coordinates ((runAll {} factors).graph 0) ((runAll {} factors).graph 1)
          (w.graph 2) =
        (u.grid i).coordinates ((runAll {} factors).graph 0) ((runAll {} factors).graph 1)
            (u.graph 2) +
          (v.grid j).coordinates ((runAll {} factors).graph 0) ((runAll {} factors).graph 1)
            (v.graph 3) := by
  have here : (runAll {} factors).Admits 0 1 2 none := by
    refine ⟨reachable_runAll .empty ?_, by decide, by decide, by decide +kernel, by simp⟩
    simp [factors, Command.Proper]
  have there : (runAll {} (factors ++ [.newGraph])).Admits 0 1 3 none := by
    refine ⟨reachable_runAll .empty ?_, by decide, by decide, by decide +kernel, by simp⟩
    simp [factors, Command.Proper]
  obtain ⟨u, i, v, j, w, k, cartesian, tensor, strong, edges, edges', together, _⟩ :=
    tensor_and_strong_products_exact here there here rfl rfl (by decide +kernel)
      (by decide +kernel)
  exact ⟨here, there, u, i, v, j, w, k, cartesian, tensor, strong,
    edges.trans (by decide +kernel), edges'.trans (by decide +kernel), together⟩

end Workspace

end Multigraph
