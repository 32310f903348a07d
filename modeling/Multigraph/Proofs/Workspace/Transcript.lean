import Multigraph.Proofs.Operation.Complemented
import Multigraph.Proofs.Workspace.Reachable

/-!
Transcripts. A transcript is a list of commands that all succeed, each on the workspace that the
one before it left, with the answers they give. Transcripts can be put together
(`Transcript.append`), and commands that succeed lead from reachable workspaces to reachable ones
(`Reachable.ran`).
-/
namespace Multigraph.Workspace

open Multigraph.Action

/-- Commands that succeed one after the other, with their answers, and the workspace in the end. -/
inductive Transcript : Workspace → List (Command × Answer) → Workspace → Prop where
  | nil (w : Workspace) : Transcript w [] w
  | cons {w v after : Workspace} {command : Command} {answer : Answer} {event : Option Event}
      {rest : List (Command × Answer)}
      (ran : run command w = .ok { answer := answer, event := event } v)
      (onward : Transcript v rest after) : Transcript w ((command, answer) :: rest) after

variable {u v w : Workspace}

theorem Transcript.append {first second : List (Command × Answer)}
    (earlier : u.Transcript first v) (later : v.Transcript second w) :
    u.Transcript (first ++ second) w := by
  induction earlier with
  | nil => exact later
  | cons ran _ ih => exact .cons ran (ih later)

/-- A command that succeeds in a reachable workspace leaves one. -/
theorem Reachable.ran {command : Command} {reply : Reply} (reached : w.Reachable)
    (ran : run command w = .ok reply v) (proper : command.Proper) : v.Reachable := by
  have left : w.step command = v := after_of_ok ran
  exact left ▸ reached.step proper

/-! ## Single commands -/

/-- One graph of a workspace has been replaced, and everything else that was there is as it was. -/
structure Replaced (w : Workspace) (id : GraphId) (g : Graph) (after : Workspace) : Prop where
  graph_eq : after.graph id = g
  others : ∀ other, other ≠ id → after.graph other = w.graph other
  length_eq : after.graphs.length = w.graphs.length
  maps_eq : ∀ m < w.maps.length, after.map m = w.map m
  grids_eq : after.grids = w.grids

theorem setGraph_replaced {id : GraphId} (held : id < w.graphs.length) (g : Graph) :
    w.Replaced id g (w.setGraph id g) where
  graph_eq := (graph_setGraph w id id g).trans (if_pos ⟨rfl, held⟩)
  others other apart := (graph_setGraph w id other g).trans (if_neg fun same => apart same.1.symm)
  length_eq := List.length_set
  maps_eq _ _ := rfl
  grids_eq := rfl

/-- A correspondence that is bound stays bound, with the same values. -/
theorem Replaced.bound {id bound : GraphId} {g : Graph} {m : MapId} (replaced : w.Replaced id g v)
    (binding : w.isBoundTo m bound = true) :
    v.isBoundTo m bound = true ∧ v.map m = w.map m := by
  have same := replaced.maps_eq m (present_of_isBoundTo binding)
  refine ⟨?_, same⟩
  rw [isBoundTo, same]
  exact binding

/-- A copy is a new graph with the same handles and counters. -/
theorem copy_command (w : Workspace) (g : GraphId) :
    run (.copy g) w = .ok { answer := .graph w.graphs.length, event := none }
      { w with graphs := w.graphs ++ [w.graph g] } := rfl

/-- The command for a complement puts the complement in the place of the graph. -/
theorem complement_command (reached : w.Reachable) {id : GraphId} (held : id < w.graphs.length)
    (policy : ComplementPolicy) :
    ∃ event after, run (.complement id policy) w =
        .ok { answer := .done, event := some event } after ∧ after.Reachable ∧
      w.Replaced id (Graph.complemented policy (w.graph id)) after := by
  have ran : run (.complement id policy) w = .ok { answer := .done, event := _ }
      (w.setGraph id (Graph.complemented policy (w.graph id))) :=
    bind_of_ok (onGraph_run (Graph.complement_run policy (reached.wellFormed id)))
  exact ⟨_, _, ran, reached.ran ran trivial, setGraph_replaced held _⟩

end Multigraph.Workspace
