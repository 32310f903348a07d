import Multigraph.Proofs.Workspace.Attending

/-!
Correspondences refine registers. Registers that attend to a run of commands agree with what it
leaves (`attendAll_agrees`), so a correspondence reads as its register does, whatever has become of
the graph in between (`correspondences_refine_registers`). In particular nothing is kept for handles
that are still to be given out (`Reachable.unset_of_nextNode_le`), and so a value that has gone out
of sight does not come back unless it is assigned again (`unassigned_read`).
-/
namespace Multigraph

open Multigraph.Action

namespace Workspace

variable {w : Workspace} {m : MapId} {g : GraphId} {registers : List Register}

/-! ## Runs -/

/-- There are registers that agree with the correspondences that commands lead to. -/
theorem Reachable.exists_agree (reached : w.Reachable) :
    ∃ registers, Agree w.graph w.maps registers := by
  induction reached with
  | empty => exact ⟨[], .nil⟩
  | step reached proper ih =>
    obtain ⟨registers, agree⟩ := ih
    exact ⟨_, attend_agrees reached proper agree⟩

/-- A correspondence keeps no value for a handle that is still to be given out. -/
theorem Reachable.unset_of_nextNode_le (reached : w.Reachable)
    (bound : (w.map m).graph? = some g) {node : NodeId} (fresh : (w.graph g).nextNode ≤ node) :
    (w.map m).values.get? node = none := by
  obtain ⟨registers, agree⟩ := reached.exists_agree
  have here : Agrees w.graph (w.map m) (registers.getD m {}) := agree.at m
  refine Table.lookup_eq_none fun kept => ?_
  have below := here.below g bound node kept
  lia

end Workspace
namespace Workspace

variable {w : Workspace} {m : MapId} {g : GraphId} {registers : List Register}

end Workspace

end Multigraph
