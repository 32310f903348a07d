import Multigraph.Proofs.Workspace.Merge

/-!
Products into one of their factors. A build empties its destination before it lists the nodes of the
factors, so a factor that is the destination has none left: there are no pairs, and destination and
grid end up empty (`run_of_no_pairs`, `product_into_factor`).
-/
namespace Multigraph

open Multigraph.Action Multigraph.Graph

namespace Build

/-- A build without pairs leaves its destination and its grid empty. -/
theorem run_of_no_pairs {μ : Type} {first second : Operand} (call : Graph → Graph → EdgeCall μ)
    (build : Build μ) (none_left : pairsOf (first.view build.graph.cleared).nodes
      (second.view build.graph.cleared).nodes = []) :
    run first second call build = .ok (.product 0 0) build.cleared := by
  have placed : (pairsOf (first.view build.graph.cleared).nodes
      (second.view build.graph.cleared).nodes).forM placePair build.cleared =
        .ok () build.cleared := by
    rw [none_left]
    rfl
  have visited : (pairsOf (first.view build.graph.cleared).nodes
      (second.view build.graph.cleared).nodes).forM
        (visitPair (call (first.view build.graph.cleared) (second.view build.graph.cleared)))
        build.cleared = .ok () build.cleared := by
    rw [none_left]
    rfl
  refine (modify_bind_run _ _ build).trans ((get_bind_run _ _).trans ?_)
  exact (bind_of_ok placed).trans ((bind_of_ok visited).trans (get_bind_run _ _))

/-- If a factor is the destination, there are no pairs. -/
theorem pairsOf_cleared {first second : Operand} (aliased : first = .same ∨ second = .same)
    (g : Graph) : pairsOf (first.view g.cleared).nodes (second.view g.cleared).nodes = [] := by
  rcases aliased with rfl | rfl
  · rfl
  · exact List.flatMap_eq_nil_iff.mpr fun _ _ => rfl

end Build

namespace Workspace

open Build

variable {w : Workspace} {kind : Datum} {root : Option NodeId} {product : Product}
  {first second destination : GraphId}

/-- A product into one of its factors succeeds and leaves the destination and the grid empty. -/
theorem product_into_factor (asked : Product.ofRequest kind root = .ok product)
    (rooted : product.requireRoot (w.graph second) = .ok ())
    (aliased : destination = first ∨ destination = second)
    (held : destination < w.graphs.length) {grid : Option GridId}
    (present : ∀ id, grid = some id → id < w.grids.length) :
    ∃ after id,
      run (.product kind root first second destination grid) w =
        .ok { answer := .grid id, event := some (.product 0 0) } after ∧
      (∀ given, grid = some given → id = given) ∧
      after.graph destination = (w.graph destination).cleared ∧ after.grid id = {} ∧
      ∀ other, other ≠ destination → after.graph other = w.graph other := by
  obtain ⟨build, here⟩ : ∃ build : Build Unit, build =
      { graph := w.graph destination, grid := (grid.map w.grid).getD {}, memory := () } := ⟨_, rfl⟩
  have factor : w.operand destination first = .same ∨ w.operand destination second = .same := by
    rcases aliased with rfl | rfl
    · exact .inl (operand_same w destination)
    · exact .inr (operand_same w destination)
  have checked : Action.query (fun build : Build Unit =>
      product.requireRoot ((w.operand destination second).view build.graph)) build =
        .ok () build := by
    refine query_of_ok ?_
    rw [here, view_operand]
    exact rooted
  have ran : Product.request kind root (w.operand destination first)
      (w.operand destination second) build = .ok (.product 0 0) build.cleared :=
    (bind_of_ok (ofExcept_of_ok asked build)).trans ((bind_of_ok checked).trans
      (run_of_no_pairs _ build (pairsOf_cleared factor build.graph)))
  rw [here] at ran
  exact product_completes held present ran

end Workspace

end Multigraph
