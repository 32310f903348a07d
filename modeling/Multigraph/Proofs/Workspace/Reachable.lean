import Multigraph.Proofs.Action.Loop
import Multigraph.Proofs.Correspondence
import Multigraph.Proofs.Operation.Change
import Multigraph.Workspace.Command

/-!
Runs of commands. Whatever commands are run, in whatever order and with whatever failures on the
way, every graph of the workspace only changes by primitive changes (`run_grows`). Hence every
graph is well-formed after every command, its counters never fall, and a handle that has left a
graph is never listed there again (`handles_never_return`).

A caller may bring an edge rule of its own. It is asked to change its destination by the changes
that a graph offers and by nothing else, and may otherwise do what it likes, fail included.
-/
namespace Multigraph

open Multigraph.Action

/-- A command whose edge rule, if it brings one, only changes its destination. -/
def Command.Proper : Command → Prop
  | .buildGrid rule .. => rule.call.OnlyChanges
  | _ => True

namespace Workspace

/-- Workspaces that commands lead to from the empty one, failed commands included. -/
inductive Reachable : Workspace → Prop where
  | empty : Reachable {}
  | step {w : Workspace} {command : Command} (reached : Reachable w) (proper : command.Proper) :
      Reachable (w.step command)

/-- Every graph has come from the empty graph by primitive changes. -/
def Grown (w : Workspace) : Prop := ∀ id, ({} : Graph).Becomes (w.graph id)

/-- A grown workspace keeps its graphs, and each of them becomes what it is in the other workspace.
A place without a graph counts as an empty graph. -/
def Grows (w v : Workspace) : Prop :=
  w.Grown → w.graphs.length ≤ v.graphs.length ∧ ∀ id, (w.graph id).Becomes (v.graph id)

theorem Grows.grown {w v : Workspace} (grows : Grows w v) (grown : w.Grown) : v.Grown :=
  fun id => (grown id).trans ((grows grown).2 id)

theorem Grows.trans {u v w : Workspace} (first : Grows u v) (second : Grows v w) :
    Grows u w := by
  intro grown
  have later := second (first.grown grown)
  exact ⟨Nat.le_trans (first grown).1 later.1, fun id => ((first grown).2 id).trans (later.2 id)⟩

instance : IsPreorder Workspace Grows where
  refl _ _ := ⟨Nat.le_refl _, fun _ => refl _⟩
  trans _ _ _ := Grows.trans

/-! ## Reading what was written -/

theorem graph_setGraph (w : Workspace) (id other : GraphId) (g : Graph) :
    (w.setGraph id g).graph other =
      if id = other ∧ id < w.graphs.length then g else w.graph other := by
  simp only [graph, setGraph, List.getD_eq_getElem?_getD, List.getElem?_set]
  by_cases same : id = other
  · subst same
    by_cases present : id < w.graphs.length
    · simp [present]
    · simp [present]
  · simp [same]

theorem graph_append (w : Workspace) (g : Graph) (id : GraphId) :
    ({ w with graphs := w.graphs ++ [g] } : Workspace).graph id =
      if id = w.graphs.length then g else w.graph id := by
  simp only [graph, List.getD_eq_getElem?_getD]
  rcases Nat.lt_trichotomy id w.graphs.length with earlier | same | later
  · simp [List.getElem?_append_left earlier, Nat.ne_of_lt earlier]
  · subst same
    simp
  · have absent := List.getElem?_eq_none (Nat.le_of_lt later)
    have beyond : (w.graphs ++ [g])[id]? = none :=
      List.getElem?_eq_none (by rw [List.length_append]; exact later)
    rw [beyond, absent, if_neg (Nat.ne_of_gt later)]

/-- Putting an object back in its place changes nothing. -/
theorem set_getD_self {α : Type} (objects : List α) (id : Nat) (default : α) :
    objects.set id (objects.getD id default) = objects := by
  rcases Nat.lt_or_ge id objects.length with present | beyond
  · have read : objects.getD id default = objects[id] := by
      rw [List.getD_eq_getElem?_getD, List.getElem?_eq_getElem present, Option.getD_some]
    rw [read]
    exact List.set_getElem_self present
  · exact List.set_eq_of_length_le beyond

theorem setGraph_graph (w : Workspace) (id : GraphId) : w.setGraph id (w.graph id) = w := by
  rw [setGraph, graph, set_getD_self]

theorem setMap_map (w : Workspace) (m : MapId) : w.setMap m (w.map m) = w := by
  rw [setMap, map, set_getD_self]

theorem setGrid_grid (w : Workspace) (id : GridId) : w.setGrid id (w.grid id) = w := by
  rw [setGrid, grid, set_getD_self]

theorem map_setMap {w : Workspace} {m : MapId} (present : m < w.maps.length) (c : Correspondence) :
    (w.setMap m c).map m = c := by
  simp [map, setMap, present]

theorem grid_setGrid {w : Workspace} {id : GridId} (present : id < w.grids.length) (grid : Grid) :
    (w.setGrid id grid).grid id = grid := by
  simp [Workspace.grid, setGrid, present]

/-- A correspondence that is bound is there. -/
theorem present_of_isBoundTo {w : Workspace} {m : MapId} {g : GraphId}
    (bound : w.isBoundTo m g = true) : m < w.maps.length := by
  rcases Nat.lt_or_ge m w.maps.length with present | beyond
  · exact present
  · have absent : w.map m = {} := by
      simp only [map, List.getD_eq_getElem?_getD, List.getElem?_eq_none beyond, Option.getD_none]
    simp [isBoundTo, absent] at bound

/-- A correspondence that is bound as it has to be is not refused. -/
theorem requireBinding_run {w : Workspace} {m : MapId} {g : GraphId}
    (bound : w.isBoundTo m g = true) (failure : Failure) :
    requireBinding m g failure w = .ok () w := by
  rw [requireBinding, get_bind_run, if_pos bound]
  rfl

theorem recordImages_run (w : Workspace) (m : MapId) (images : Table NodeId NodeId) :
    recordImages m images w = .ok () (w.setMap m { (w.map m) with
      values := (w.map m).values.recordImages images }) := rfl

/-- A node of the graph that a correspondence is bound to is read as its values say. -/
theorem readKey_run {w : Workspace} {m : MapId} {g : GraphId} {node : NodeId}
    (bound : w.isBoundTo m g = true) (held : node ∈ (w.graph g).nodes) :
    w.readKey m node = .ok ((w.map m).values.get? node) := by
  have binding : (w.map m).graph? = some g := of_decide_eq_true bound
  have required : Assignment.requireKey (w.graph g) node = .ok () := if_pos held
  simp only [readKey, boundGraph, binding, Assignment.read]
  show (do
    Assignment.requireKey (w.graph g) node
    pure ((w.map m).values.get? node) : Except _ _) = _
  rw [required]
  rfl

/-- An action that succeeds on a graph of the workspace leaves the graph that it made there. -/
theorem onGraph_run {α : Type} {w : Workspace} {id : GraphId} {action : Action Graph α}
    {answer : α} {g : Graph} (ran : action (w.graph id) = .ok answer g) :
    onGraph id action w = .ok answer (w.setGraph id g) := within_of_ok ran

/-- The workspace when an operation has left one graph and the images of nodes. -/
def recorded (w : Workspace) (id : GraphId) (g : Graph) (m : MapId)
    (images : Table NodeId NodeId) : Workspace :=
  (w.setGraph id g).setMap m { (w.map m) with values := (w.map m).values.recordImages images }

theorem graph_recorded (w : Workspace) (id other : GraphId) (g : Graph) (m : MapId)
    (images : Table NodeId NodeId) :
    (w.recorded id g m images).graph other =
      if id = other ∧ id < w.graphs.length then g else w.graph other :=
  graph_setGraph w id other g

theorem graph_recorded_self {w : Workspace} {id : GraphId} (held : id < w.graphs.length) (g : Graph)
    (m : MapId) (images : Table NodeId NodeId) : (w.recorded id g m images).graph id = g :=
  (graph_recorded w id id g m images).trans (if_pos ⟨rfl, held⟩)

/-- Recorded images are the values of the nodes that have one. -/
theorem readKey_recorded {w : Workspace} {id bound : GraphId} {g : Graph} {m : MapId}
    {images : Table NodeId NodeId} {node image : NodeId} (binding : w.isBoundTo m bound = true)
    (distinct : images.keys.Nodup) (found : images.get? node = some image)
    (held : node ∈ ((w.recorded id g m images).graph bound).nodes) :
    (w.recorded id g m images).readKey m node = .ok (some (.int image)) := by
  have there : (w.recorded id g m images).map m =
      { (w.map m) with values := (w.map m).values.recordImages images } :=
    map_setMap (present_of_isBoundTo binding) _
  have still : (w.recorded id g m images).isBoundTo m bound = true := by
    rw [isBoundTo, there]
    exact binding
  rw [readKey_run still held, there, Assignment.get?_recordImages _ distinct, found]

/-- A node without a recorded image reads as its value was. -/
theorem readKey_recorded_absent {w : Workspace} {id bound : GraphId} {g : Graph} {m : MapId}
    {images : Table NodeId NodeId} {node : NodeId} (binding : w.isBoundTo m bound = true)
    (distinct : images.keys.Nodup) (absent : images.get? node = none)
    (held : node ∈ ((w.recorded id g m images).graph bound).nodes) :
    (w.recorded id g m images).readKey m node = .ok ((w.map m).values.get? node) := by
  have there : (w.recorded id g m images).map m =
      { (w.map m) with values := (w.map m).values.recordImages images } :=
    map_setMap (present_of_isBoundTo binding) _
  have still : (w.recorded id g m images).isBoundTo m bound = true := by
    rw [isBoundTo, there]
    exact binding
  rw [readKey_run still held, there, Assignment.get?_recordImages _ distinct, absent]

/-! ## One command -/

theorem grows_of_same_graphs {w v : Workspace} (same : v.graphs = w.graphs) : Grows w v := by
  intro _
  refine ⟨Nat.le_of_eq (congrArg List.length same.symm), fun id => ?_⟩
  have unchanged : v.graph id = w.graph id := by simp only [graph, same]
  rw [unchanged]
  exact refl _

theorem grows_setGraph {w : Workspace} {id : GraphId} {g : Graph}
    (becomes : (w.graph id).Becomes g) : Grows w (w.setGraph id g) := by
  intro _
  refine ⟨by simp [setGraph], fun other => ?_⟩
  rw [graph_setGraph]
  split
  · rename_i here
    exact here.1 ▸ becomes
  · exact refl _

theorem grows_append {w : Workspace} {g : Graph} (grown : w.Grown → ({} : Graph).Becomes g) :
    Grows w { w with graphs := w.graphs ++ [g] } := by
  intro held
  refine ⟨by simp, fun id => ?_⟩
  rw [graph_append]
  split
  · rename_i here
    have absent : w.graph id = {} := by simp [graph, here]
    rw [absent]
    exact grown held
  · exact refl _

theorem onGraph_grows {α : Type} (id : GraphId) {action : Action Graph α}
    (kept : Keeps Graph.Becomes action) : Keeps Grows (onGraph id action) :=
  keeps_within kept fun _ _ becomes => grows_setGraph becomes

theorem onMap_grows {α : Type} (id : MapId) (action : Graph → Action Assignment α) :
    Keeps Grows (onMap id action) := by
  have anything : ∀ g, Keeps (fun _ _ => True) (action g) := fun _ _ => trivial
  exact keeps_bind (keeps_query _) fun g =>
    keeps_within (anything g) fun _ _ _ => grows_of_same_graphs rfl

theorem onBuild_grows {α μ : Type} (destination : GraphId) (grid : GridId) (memory : μ)
    {action : Action (Build μ) α} (kept : Keeps Build.Becomes action) :
    Keeps Grows (onBuild destination grid memory action) :=
  keeps_within kept fun _ _ becomes =>
    (grows_setGraph becomes).trans (grows_of_same_graphs rfl)

theorem requireBinding_grows (m : MapId) (g : GraphId) (failure : Failure) :
    Keeps Grows (requireBinding m g failure) :=
  keeps_bind keeps_get fun _ => keeps_ite (keeps_pure ()) (keeps_throw failure)

theorem addMap_grows (m : Correspondence) : Keeps Grows (addMap m) :=
  fun _ => grows_of_same_graphs rfl

theorem addGrid_grows (grid : Grid) : Keeps Grows (addGrid grid) :=
  fun _ => grows_of_same_graphs rfl

theorem recordImages_grows (m : MapId) (images : Table NodeId NodeId) :
    Keeps Grows (recordImages m images) := keeps_modify fun _ => grows_of_same_graphs rfl

theorem writeAll_grows (m : MapId) (entries : List (NodeId × Option Value)) :
    Keeps Grows (writeAll m entries) := keeps_forM fun _ _ => onMap_grows m _

theorem product_grows (kind : Datum) (root : Option NodeId) (first second destination : GraphId)
    (grid : Option GridId) : Keeps Grows (product kind root first second destination grid) := by
  have built : ∀ id, Keeps Grows (do
      let w ← get
      let event ← onBuild destination id ()
        (Product.request kind root (w.operand destination first) (w.operand destination second))
      return ({ answer := .grid id, event := event } : Reply)) := fun id =>
    keeps_bind keeps_get fun _ =>
      keeps_bind (onBuild_grows destination id () (Product.request_changes kind root _ _))
        fun _ => keeps_pure _
  cases grid with
  | some id => exact keeps_bind (keeps_pure id) built
  | none => exact keeps_bind (addGrid_grows {}) built

/-- A command, failed or not, only changes the graphs by primitive changes. -/
theorem run_grows {command : Command} (proper : command.Proper) : Keeps Grows (run command) := by
  cases command with
  | newGraph => exact fun w => grows_append fun _ => refl _
  | copy g => exact fun w => grows_append fun grown => grown g
  | newNode g =>
    exact keeps_bind (onGraph_grows g Graph.newNode_changes) fun _ => keeps_pure _
  | newEdge g source target =>
    exact keeps_bind (onGraph_grows g (Graph.newEdge_changes source target)) fun _ => keeps_pure _
  | deleteNode g node =>
    exact keeps_bind (onGraph_grows g (Graph.deleteNode_changes node)) fun _ => keeps_pure _
  | deleteEdge g edge =>
    exact keeps_bind (onGraph_grows g (Graph.deleteEdge_changes edge)) fun _ => keeps_pure _
  | clear g => exact keeps_bind (onGraph_grows g Graph.clear_changes) fun _ => keeps_pure _
  | insert g other =>
    exact keeps_bind keeps_get fun _ =>
      keeps_bind (onGraph_grows g (Graph.insert_changes _)) fun _ => keeps_pure _
  | removeParallel g directed =>
    exact keeps_bind (onGraph_grows g (Graph.removeParallel_changes directed))
      fun _ => keeps_pure _
  | complement g policy =>
    exact keeps_bind (onGraph_grows g (Graph.complement_changes policy)) fun _ => keeps_pure _
  | disjointUnion first second =>
    exact keeps_bind keeps_get fun _ =>
      keeps_bind (onGraph_grows first (Graph.disjointUnion_changes _)) fun images =>
        keeps_bind (addMap_grows _) fun m =>
          keeps_bind (recordImages_grows m images) fun _ => keeps_pure _
  | union first second map policy =>
    refine keeps_bind ?_ fun m => keeps_bind keeps_get fun _ =>
      keeps_bind (onGraph_grows first (Graph.union_changes _ _ policy)) fun (images, _) =>
        keeps_bind (recordImages_grows m images) fun _ => keeps_pure _
    cases map with
    | some m => exact keeps_bind (requireBinding_grows m second _) fun _ => keeps_pure m
    | none => exact addMap_grows _
  | join first second m =>
    exact keeps_bind (requireBinding_grows m second _) fun _ => keeps_bind keeps_get fun _ =>
      keeps_bind (onGraph_grows first (Graph.join_changes _ _)) fun (images, _) =>
        keeps_bind (recordImages_grows m images) fun _ => keeps_pure _
  | intersection first second m =>
    exact keeps_bind (requireBinding_grows m first _) fun _ => keeps_bind keeps_get fun _ =>
      keeps_bind (onGraph_grows first (Graph.intersection_changes _ _)) fun _ => keeps_pure _
  | product kind root first second destination grid =>
    exact product_grows kind root first second destination grid
  | buildGrid rule first second destination grid =>
    refine keeps_bind keeps_get fun w => keeps_bind (onBuild_grows destination grid _ ?_)
      fun (_, _) => keeps_pure _
    exact keeps_bind (Build.run_changes _ _ fun _ _ => proper.recorded) fun _ =>
      keeps_bind keeps_get fun _ => keeps_pure _
  | newMap g => exact keeps_bind (addMap_grows _) fun _ => keeps_pure _
  | bind m g =>
    exact keeps_bind (keeps_modify fun _ => grows_of_same_graphs rfl) fun _ => keeps_pure _
  | write m node value => exact keeps_bind (onMap_grows m _) fun _ => keeps_pure _
  | writeAll m entries => exact keeps_bind (writeAll_grows m entries) fun _ => keeps_pure _
  | writeFrom m other =>
    exact keeps_bind (keeps_query _) fun entries =>
      keeps_bind (writeAll_grows m entries) fun _ => keeps_pure _
  | take m node default => exact keeps_bind (onMap_grows m _) fun _ => keeps_pure _
  | takeFirst m => exact keeps_bind (onMap_grows m _) fun (_, _) => keeps_pure _
  | readOrWrite m node default => exact keeps_bind (onMap_grows m _) fun _ => keeps_pure _
  | newGrid => exact keeps_bind (addGrid_grows {}) fun _ => keeps_pure _
  | assign grid first second node =>
    exact keeps_bind (keeps_modify fun _ => grows_of_same_graphs rfl) fun _ => keeps_pure _
  | clearGrid grid =>
    exact keeps_bind (keeps_modify fun _ => grows_of_same_graphs rfl) fun _ => keeps_pure _

theorem step_grows (w : Workspace) {command : Command} (proper : command.Proper) :
    Grows w (w.step command) := run_grows proper w

/-! ## Runs -/

theorem reachable_runAll {w : Workspace} (reached : Reachable w) {commands : List Command}
    (proper : ∀ command ∈ commands, command.Proper) : Reachable (w.runAll commands) := by
  induction commands generalizing w with
  | nil => exact reached
  | cons command rest ih =>
    exact ih (reached.step (proper command List.mem_cons_self))
      fun later held => proper later (List.mem_cons_of_mem _ held)

theorem empty_grown : Grown {} := fun _ => refl _

theorem Reachable.grown {w : Workspace} (reached : Reachable w) : w.Grown := by
  induction reached with
  | empty => exact empty_grown
  | step _ proper ih => exact (step_grows _ proper).grown ih

/-- Every graph that commands lead to is well-formed. -/
theorem Reachable.wellFormed {w : Workspace} (reached : Reachable w) (id : GraphId) :
    (w.graph id).WellFormed := (reached.grown id).wellFormed Graph.wellFormed_empty

end Workspace

end Multigraph
