import Multigraph.Proofs.Product.Pairs
import Multigraph.Proofs.Product.Room

/-!
Products with their factors exchanged. A cartesian or co-normal product has from one pair to
another as many edges as the product of the exchanged factors has between the exchanged pairs
(`times_swap`). A tensor, strong or modular product may draw the edges of a pair in another
direction, but between two pairs it has as many of them (`links_swap`).
-/
namespace Multigraph

open Multigraph.Graph Build

namespace Product

variable {product : Product}

theorem times_swap (whole : product = .cartesian ∨ product = .coNormal) (first second : Graph)
    (pair target : NodeId × NodeId) :
    product.times second first pair.swap target.swap = product.times first second pair target := by
  rcases whole with rfl | rfl
  · simp only [times, Prod.fst_swap, Prod.snd_swap]
    exact Nat.add_comm _ _
  · exact Nat.add_comm _ _

/-- Edges between two pairs, counted in both directions, with the factors exchanged. -/
theorem times_swap_add (crossing : product = .tensor ∨ product = .strong ∨ product = .modular)
    (first second : Graph) (pair target : NodeId × NodeId) :
    product.times second first pair.swap target.swap +
        product.times second first target.swap pair.swap =
      product.times first second pair target + product.times first second target pair := by
  have tensor : times .tensor second first pair.swap target.swap +
      times .tensor second first target.swap pair.swap =
        times .tensor first second pair target + times .tensor first second target pair := by
    rw [times_tensor_add, times_tensor_add]
    exact Nat.mul_comm _ _
  rcases crossing with rfl | rfl | rfl
  · exact tensor
  · have forth := times_swap (.inl rfl) first second pair target
    have back := times_swap (.inl rfl) first second target pair
    rw [times_strong_add, times_strong_add, tensor, forth, back]
  · rw [times_modular_add, times_modular_add, tensor]
    refine congrArg (_ + ·) (if_congr ?_ rfl rfl)
    simp only [Prod.fst_swap, Prod.snd_swap]
    tauto

/-- Between exchanged pairs the product of exchanged factors has as many edges, loops included. -/
theorem links_swap (crossing : product = .tensor ∨ product = .strong ∨ product = .modular)
    (first second : Graph) (pair target : NodeId × NodeId) :
    product.links second first pair.swap target.swap = product.links first second pair target := by
  have both := times_swap_add crossing first second pair target
  by_cases same : pair = target
  · subst same
    rw [links, links, if_pos rfl, if_pos rfl]
    omega
  · have apart : pair.swap ≠ target.swap := fun meet => same (Prod.swap_injective meet)
    rw [links, links, if_neg apart, if_neg same, both]

end Product

namespace Workspace

/-- In every workspace that commands lead to, a product of two graphs and the product of the same
graphs in the other order, put in places of their own, have the same edges up to the order of
coordinates. For cartesian and co-normal products this is so of the edges from one pair to another,
and for tensor, strong and modular ones of the edges between two pairs in either direction. -/
theorem products_commute {w : Workspace} {first second : GraphId} {p q : Place}
    (room : w.Room [first, second] [] [p, q]) {kind : Datum} {product : Product}
    (asked : Product.ofRequest kind none = .ok product) :
    ∃ after i j, w.Transcript
        [(.product kind none first second p.destination p.grid, .grid i),
          (.product kind none second first q.destination q.grid, .grid j)] after ∧
      ∀ pair ∈ pairsOf (w.graph first).nodes (w.graph second).nodes,
        ∀ target ∈ pairsOf (w.graph first).nodes (w.graph second).nodes,
          (product = .cartesian ∨ product = .coNormal → ∃ n,
            (after.grid i).multiplicity? (after.graph p.destination) pair target = some n ∧
            (after.grid j).multiplicity? (after.graph q.destination) pair.swap target.swap =
              some n) ∧
          (product = .tensor ∨ product = .strong ∨ product = .modular → ∃ n,
            (after.grid i).links? (after.graph p.destination) pair target = some n ∧
            (after.grid j).links? (after.graph q.destination) pair.swap target.swap =
              some n) := by
  obtain ⟨_, u, i, ran, room', built, kept⟩ := room.run_product first second (by simp) (by simp)
    asked (Product.requireRoot_of_rootless asked _)
  obtain ⟨_, after, j, ran', _, built', kept'⟩ := room'.run_product second first (by simp) (by simp)
    asked (Product.requireRoot_of_rootless asked _)
  -- Both products are of the factors as they were, and the first of them is still there.
  rw [kept.graph_eq first (by simp), kept.graph_eq second (by simp)] at built'
  rw [← kept'.graph_eq p.destination (by simp), ← kept'.grid_eq i (by simp)] at built
  refine ⟨after, i, j, .cons ran (.cons ran' (.nil _)), fun pair start target goal => ?_⟩
  have start' : pair.swap ∈ pairsOf (w.graph second).nodes (w.graph first).nodes :=
    mem_pairsOf.mpr (mem_pairsOf.mp start).symm
  have goal' : target.swap ∈ pairsOf (w.graph second).nodes (w.graph first).nodes :=
    mem_pairsOf.mpr (mem_pairsOf.mp goal).symm
  constructor
  · intro whole
    refine ⟨_, built.multiplicity?_eq start goal, ?_⟩
    rw [built'.multiplicity?_eq start' goal', Product.times_swap whole]
  · intro crossing
    refine ⟨_, built.links?_eq start goal, ?_⟩
    rw [built'.links?_eq start' goal', Product.links_swap crossing]

/-- Two factors with loops and parallel edges, a destination in use, an empty one and a grid. -/
def factorsWithRoom : List Command := factors ++ [.newGraph, .newGrid]

theorem products_commute_factorsWithRoom :
    (runAll {} factorsWithRoom).Room [0, 1] [] [⟨2, none⟩, ⟨3, some 0⟩] ∧
    Product.ofRequest (.text "strong") none = .ok .strong ∧
    ∃ after i j, (runAll {} factorsWithRoom).Transcript
        [(.product (.text "strong") none 0 1 2 none, .grid i),
          (.product (.text "strong") none 1 0 3 (some 0), .grid j)] after ∧
      ∀ pair ∈ [(1, 0), (1, 2), (2, 0), (2, 2)], ∀ target ∈ [(1, 0), (1, 2), (2, 0), (2, 2)],
        ∃ n, (after.grid i).links? (after.graph 2) pair target = some n ∧
          (after.grid j).links? (after.graph 3) pair.swap target.swap = some n := by
  have room : (runAll {} factorsWithRoom).Room [0, 1] [] [⟨2, none⟩, ⟨3, some 0⟩] := by
    refine ⟨by decide +kernel, reachable_runAll .empty ?_⟩
    simp [factorsWithRoom, factors, Command.Proper]
  have asked : Product.ofRequest (.text "strong") none = .ok .strong := by rfl
  have pairs : pairsOf ((runAll {} factorsWithRoom).graph 0).nodes
      ((runAll {} factorsWithRoom).graph 1).nodes = [(1, 0), (1, 2), (2, 0), (2, 2)] := by
    decide +kernel
  obtain ⟨after, i, j, transcript, same⟩ := products_commute room asked
  rw [pairs] at same
  exact ⟨room, asked, after, i, j, transcript,
    fun pair start target goal => (same pair start target goal).2 (.inr (.inl rfl))⟩

end Workspace

end Multigraph
