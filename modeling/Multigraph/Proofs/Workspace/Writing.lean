import Multigraph.Proofs.Workspace.Reachable
import Multigraph.Proofs.Workspace.Register

/-!
What commands do to correspondences. An action on a correspondence leaves the values that it leaves
of them and nothing else (`onMap_after`); all that the actions do is to put values at nodes, one
after the other and up to the first handle that is none (`Assignment.putAll`). A command that works
on graphs and grids changes no correspondence (`SameMaps`).
-/
namespace Multigraph

open Multigraph.Action

namespace Workspace

variable {w : Workspace} {m : MapId} {g : GraphId}

/-- The workspace with other values in one correspondence. -/
def withValues (w : Workspace) (m : MapId) (values : Assignment) : Workspace :=
  w.setMap m { w.map m with values := values }

theorem withValues_self (w : Workspace) (m : MapId) : w.withValues m (w.map m).values = w :=
  setMap_map w m

theorem withValues_withValues (w : Workspace) (m : MapId) (values others : Assignment)
    (present : m < w.maps.length) :
    (w.withValues m values).withValues m others = w.withValues m others := by
  rw [withValues, withValues, map_setMap present]
  simp only [setMap, List.set_set, withValues]

theorem present_of_bound (bound : (w.map m).graph? = some g) : m < w.maps.length :=
  present_of_isBoundTo (decide_eq_true bound)

theorem values_withValues (bound : (w.map m).graph? = some g) (values : Assignment) :
    (w.withValues m values).map m = { w.map m with values := values } :=
  map_setMap (present_of_bound bound) _

theorem boundGraph_of_bound (bound : (w.map m).graph? = some g) :
    w.boundGraph m = .ok (w.graph g) := by
  rw [boundGraph, bound]

theorem boundGraph_unbound (unbound : (w.map m).graph? = none) :
    w.boundGraph m = .error .unbound := by
  rw [boundGraph, unbound]

section OnMap

variable {α : Type} {action : Graph → Action Assignment α}

theorem onMap_ok (bound : (w.map m).graph? = some g) {answer : α} {values : Assignment}
    (ran : action (w.graph g) (w.map m).values = .ok answer values) :
    onMap m action w = .ok answer (w.withValues m values) := by
  have asked : Action.query (boundGraph · m) w = .ok (w.graph g) w :=
    query_of_ok (boundGraph_of_bound bound)
  exact (bind_of_ok asked).trans (within_of_ok ran)

theorem onMap_error (bound : (w.map m).graph? = some g) {failure : Failure} {values : Assignment}
    (failed : action (w.graph g) (w.map m).values = .error failure values) :
    onMap m action w = .error failure (w.withValues m values) := by
  have asked : Action.query (boundGraph · m) w = .ok (w.graph g) w :=
    query_of_ok (boundGraph_of_bound bound)
  exact (bind_of_ok asked).trans (within_of_error failed)

theorem onMap_unbound (unbound : (w.map m).graph? = none) :
    onMap m action w = .error .unbound w :=
  bind_of_error (query_of_error (boundGraph_unbound unbound))

/-- An action on a correspondence leaves the values that it leaves. -/
theorem onMap_after (bound : (w.map m).graph? = some g) :
    (onMap m action).after w =
      w.withValues m ((action (w.graph g)).after (w.map m).values) := by
  cases ran : action (w.graph g) (w.map m).values with
  | ok answer values => rw [after_of_ok (onMap_ok bound ran), after_of_ok ran]
  | error failure values => rw [after_of_error (onMap_error bound ran), after_of_error ran]

end OnMap

theorem after_bind_pure {σ α β : Type} (action : Action σ α) (f : α → β) (state : σ) :
    (action >>= fun answer => pure (f answer)).after state = action.after state := by
  cases ran : action state with
  | ok answer reached =>
    rw [after_of_ok ran]
    exact after_of_ok (bind_of_ok ran)
  | error failure reached => rw [after_of_error ran, after_of_error (bind_of_error ran)]

theorem write_held (bound : (w.map m).graph? = some g) {node : NodeId}
    (held : node ∈ (w.graph g).nodes) (value : Option Value) :
    write m node value w = .ok () (w.withValues m ((w.map m).values.put node value)) :=
  onMap_ok bound (Assignment.write_run held value)

/-- Writing several entries puts them one after the other, up to the first that is refused. -/
theorem writeAll_after (bound : (w.map m).graph? = some g)
    (entries : List (NodeId × Option Value)) :
    (writeAll m entries).after w =
      w.withValues m ((w.map m).values.putAll (w.graph g).nodes entries) := by
  induction entries generalizing w with
  | nil =>
    rw [Assignment.putAll, withValues_self]
    rfl
  | cons entry rest ih =>
    obtain ⟨node, value⟩ := entry
    rw [Assignment.putAll]
    by_cases held : node ∈ (w.graph g).nodes
    · have first := write_held bound held value
      have there := values_withValues bound ((w.map m).values.put node value)
      have others := ih (w := w.withValues m ((w.map m).values.put node value))
        (by rw [there]; exact bound)
      rw [there, withValues_withValues w m _ _ (present_of_bound bound)] at others
      have onward : (writeAll m ((node, value) :: rest)).after w =
          (writeAll m rest).after (w.withValues m ((w.map m).values.put node value)) := by
        have begins : writeAll m ((node, value) :: rest) w =
            writeAll m rest (w.withValues m ((w.map m).values.put node value)) := bind_of_ok first
        simp only [after, begins]
      rw [onward, if_pos held]
      exact others
    · have refused : write m node value w = .error (.missingKey node) w := by
        have stopped : write m node value w = _ :=
          onMap_error bound (Assignment.write_foreign held value)
        rw [withValues_self] at stopped
        exact stopped
      rw [if_neg held, withValues_self]
      exact after_of_error (bind_of_error refused)

/-- Entries for nodes are all written. -/
theorem writeAll_run (bound : (w.map m).graph? = some g) {entries : List (NodeId × Option Value)}
    (inside : ∀ entry ∈ entries, entry.1 ∈ (w.graph g).nodes) :
    writeAll m entries w =
      .ok () (w.withValues m ((w.map m).values.putAll (w.graph g).nodes entries)) := by
  induction entries generalizing w with
  | nil =>
    rw [Assignment.putAll, withValues_self]
    rfl
  | cons entry rest ih =>
    obtain ⟨node, value⟩ := entry
    obtain ⟨held, others⟩ := List.forall_mem_cons.mp inside
    have first := write_held bound held value
    have there := values_withValues bound ((w.map m).values.put node value)
    have later := ih (w := w.withValues m ((w.map m).values.put node value))
      (by rw [there]; exact bound) others
    rw [there, withValues_withValues w m _ _ (present_of_bound bound)] at later
    rw [Assignment.putAll, if_pos held]
    exact (bind_of_ok first).trans later

/-- Recording the images of nodes is writing them one after the other: no key is refused. -/
theorem recordImages_eq_writeAll (bound : (w.map m).graph? = some g)
    {images : Table NodeId NodeId} (inside : ∀ key ∈ images.keys, key ∈ (w.graph g).nodes) :
    recordImages m images w =
      writeAll m (images.entries.map fun entry => (entry.1, some (.int entry.2))) w := by
  have listed : ∀ entry ∈ images.entries.map fun entry => (entry.1, some (Value.int entry.2)),
      entry.1 ∈ (w.graph g).nodes := by
    intro entry member
    obtain ⟨image, recorded, rfl⟩ := List.mem_map.mp member
    exact inside image.1 (List.mem_map_of_mem recorded)
  rw [writeAll_run bound listed, ← Assignment.recordImages_eq_putAll inside]
  exact recordImages_run w m images

/-- A correspondence that is not bound refuses whatever is written. -/
theorem writeAll_unbound (unbound : (w.map m).graph? = none)
    (entries : List (NodeId × Option Value)) : (writeAll m entries).after w = w := by
  cases entries with
  | nil => rfl
  | cons entry rest => exact after_of_error (bind_of_error (onMap_unbound unbound))

end Workspace

namespace Assignment

variable {g : Graph}

theorem take_after (values : Assignment) (node : NodeId) (default : Option (Option Value)) :
    (take g node default).after values = values.putAll g.nodes [(node, none)] := by
  rw [putAll]
  by_cases held : node ∈ g.nodes
  · have asked : Action.query (read · g node) values = .ok (values.get? node) values :=
      query_of_ok (read_of_mem values held)
    have taken : takeKey g node values = .ok (values.get? node) (values.put node none) :=
      (bind_of_ok asked).trans (bind_of_ok (write_run held none))
    have whole : take g node default values = .ok (values.get? node) (values.put node none) := by
      cases default with
      | none => exact taken
      | some value =>
        rw [take, if_pos held]
        exact taken
    rw [after_of_ok whole, if_pos held]
    rfl
  · rw [if_neg held]
    cases default with
    | none =>
      have refused : takeKey g node values = .error (.missingKey node) values :=
        bind_of_error (query_of_error (read_foreign values held))
      exact after_of_error refused
    | some value =>
      rw [take, if_neg held]
      rfl

theorem takeFirst_after (values : Assignment) :
    (takeFirst g).after values =
      values.putAll g.nodes (g.nodes.head?.toList.map fun node => (node, none)) := by
  cases nodes : g.nodes with
  | nil =>
    have nothing : takeFirst g values = .error .noKey values := by
      rw [takeFirst, nodes]
      rfl
    exact after_of_error nothing
  | cons node rest =>
    have taken := take_after (g := g) values node none
    have first : takeFirst g = (takeKey g node >>= fun value => pure (node, value)) := by
      rw [takeFirst, nodes]
    rw [nodes] at taken
    rw [first, Workspace.after_bind_pure]
    exact taken

theorem write_after (values : Assignment) (node : NodeId) (value : Option Value) :
    (write g node value).after values = values.putAll g.nodes [(node, value)] := by
  rw [putAll]
  by_cases held : node ∈ g.nodes
  · rw [after_of_ok (write_run held value), if_pos held]
    rfl
  · rw [after_of_error (write_foreign held value), if_neg held]

/-- Reading a key, or being refused another handle, leaves the values. -/
theorem readOrWrite_after (values : Assignment) (node : NodeId) (default : Option Value) :
    (readOrWrite g node default).after values = values := by
  unfold readOrWrite
  by_cases held : node ∈ g.nodes
  · rw [if_pos held]
    exact after_of_ok (query_of_ok (read_of_mem values held))
  · rw [if_neg held]
    exact after_of_error (bind_of_error (write_foreign held default))

end Assignment

namespace Workspace

variable {w : Workspace} {m : MapId} {g : GraphId}

/-! ## What correspondences answer -/

/-- The correspondences of a workspace are those of another. -/
def SameMaps (w v : Workspace) : Prop := v.maps = w.maps

instance : IsPreorder Workspace SameMaps where
  refl _ := rfl
  trans _ _ _ first second := second.trans first

theorem onGraph_sameMaps {α : Type} (id : GraphId) (action : Action Graph α) :
    Keeps SameMaps (onGraph id action) := by
  have anything : Keeps (fun _ _ => True) action := fun _ => trivial
  exact keeps_within anything fun _ _ _ => rfl

theorem onBuild_sameMaps {α μ : Type} (destination : GraphId) (grid : GridId) (memory : μ)
    (action : Action (Build μ) α) : Keeps SameMaps (onBuild destination grid memory action) := by
  have anything : Keeps (fun _ _ => True) action := fun _ => trivial
  exact keeps_within anything fun _ _ _ => rfl

theorem requireBinding_sameMaps (m : MapId) (g : GraphId) (failure : Failure) :
    Keeps SameMaps (requireBinding m g failure) :=
  keeps_bind keeps_get fun _ => keeps_ite (keeps_pure ()) (keeps_throw failure)

theorem addGraph_sameMaps (g : Graph) : Keeps SameMaps (addGraph g) := fun _ => rfl

theorem addGrid_sameMaps (grid : Grid) : Keeps SameMaps (addGrid grid) := fun _ => rfl

theorem product_sameMaps (kind : Datum) (root : Option NodeId)
    (first second destination : GraphId) (grid : Option GridId) :
    Keeps SameMaps (product kind root first second destination grid) := by
  have built : ∀ id, Keeps SameMaps (do
      let w ← get
      let event ← onBuild destination id ()
        (Product.request kind root (w.operand destination first) (w.operand destination second))
      return ({ answer := .grid id, event := event } : Reply)) := fun id =>
    keeps_bind keeps_get fun _ => keeps_bind (onBuild_sameMaps _ _ _ _) fun _ => keeps_pure _
  cases grid with
  | some id => exact keeps_bind (keeps_pure id) built
  | none => exact keeps_bind (addGrid_sameMaps {}) built

/-- Reading a key never changes what is there. -/
theorem readOrWrite_same (w : Workspace) (m : MapId) (node : NodeId) (default : Option Value) :
    (onMap m (Assignment.readOrWrite · node default)).after w = w := by
  cases binding : (w.map m).graph? with
  | none => exact after_of_error (onMap_unbound binding)
  | some g => rw [onMap_after binding, Assignment.readOrWrite_after, withValues_self]

end Workspace

end Multigraph
