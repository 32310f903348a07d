import Mathlib.Data.List.Forall2
import Multigraph.Proofs.Operation.Merging
import Multigraph.Proofs.Workspace.Writing

/-!
Registers beside a run of commands. For each correspondence a register is kept; under each command
it is told what the command assigns (`obey`), and then which nodes its graph has
(`Register.follow`). It never looks at the correspondence. Of one command it is shown here that the
register and the correspondence stay in agreement (`attend_agrees`).
-/
namespace Multigraph

open Multigraph.Action

/-! ## What operations make of their identifications -/

namespace Assignment

variable {values others : Assignment} {domain codomain : Graph}

/-- Only the values of nodes matter for the identifications. -/
theorem resolve_congr (same : ∀ node ∈ domain.nodes, values.get? node = others.get? node)
    (codomain : Graph) (refuse : NodeId → Value → Failure) :
    values.resolve domain codomain refuse = others.resolve domain codomain refuse := by
  have loop : ∀ nodes : List NodeId, (∀ node ∈ nodes, values.get? node = others.get? node) →
      ∀ found : Table NodeId NodeId, nodes.foldlM (identify values codomain refuse) found =
        nodes.foldlM (identify others codomain refuse) found := by
    intro nodes
    induction nodes with
    | nil => exact fun _ _ => rfl
    | cons node rest ih =>
      intro agree found
      obtain ⟨here, later⟩ := List.forall_mem_cons.mp agree
      have step : identify values codomain refuse found node =
          identify others codomain refuse found node := by rw [identify, identify, here]
      rw [List.foldlM_cons, List.foldlM_cons, step]
      exact congrArg _ (funext (ih later))
  exact loop domain.nodes same ∅

end Assignment

namespace Graph

variable {first second : Graph} {values others : Assignment}

theorem union_congr (same : ∀ node ∈ second.nodes, values.get? node = others.get? node)
    (policy : UnionPolicy) :
    union second values policy first = union second others policy first := by
  have unset : values.unsetNodes second = others.unsetNodes second :=
    List.filter_congr fun node held => by rw [same node held]
  rw [union, union, get_bind_run, get_bind_run,
    Assignment.resolve_congr same first .identifiedOutside, unset]

theorem join_congr {operand : Operand}
    (same : ∀ node ∈ (operand.view first).nodes, values.get? node = others.get? node) :
    join operand values first = join operand others first := by
  rw [join, join, get_bind_run, get_bind_run,
    Assignment.resolve_congr same first .identifiedOutside]

end Graph

/-! ## Registers beside a run -/

/-- The entries for the images that an operation has found; none if it has failed. -/
def Register.found (outcome : Except Failure (Table NodeId NodeId)) :
    List (NodeId × Option Value) :=
  match outcome with
  | .ok images => images.entries.map fun entry => (entry.1, some (.int entry.2))
  | .error _ => []

namespace Workspace

open Register

/-- What a command does to the registers by itself: it opens one or assigns to one, or does
neither. Where an operation assigns the images it has found, it has found them under the values of
the register. -/
def obey (w : Workspace) (registers : List Register) : Command → List Register
  | .newMap none => registers ++ [{}]
  | .newMap (some g) => registers ++ [opened g (w.graph g).nodes]
  | .bind m g => registers.set m (opened g (w.graph g).nodes)
  | .write m node value => registers.modify m (·.assignAll [(node, value)])
  | .writeAll m entries => registers.modify m (·.assignAll entries)
  | .writeFrom m other =>
    registers.modify m (·.assignAll (registers.getD other {}).entries.entries)
  | .take m node _ => registers.modify m (·.assignAll [(node, none)])
  | .takeFirst m =>
    registers.modify m fun r => r.assignAll (r.entries.keys.head?.toList.map fun n => (n, none))
  | .disjointUnion first second =>
    registers ++ [(opened second (w.graph second).nodes).assignAll
      (found (Action.outcome (Graph.disjointUnion (w.graph second)) (w.graph first)))]
  | .union first second none policy =>
    registers ++ [(opened second (w.graph second).nodes).assignAll
      (found ((Action.outcome (Graph.union (w.graph second) ∅ policy)
        (w.graph first)).map Prod.fst))]
  | .union first second (some m) policy =>
    registers.modify m fun r =>
      if r.graph? = some second then
        r.assignAll (found ((Action.outcome (Graph.union (w.graph second) r.assignment policy)
          (w.graph first)).map Prod.fst))
      else r
  | .join first second m =>
    registers.modify m fun r =>
      if r.graph? = some second then
        r.assignAll (found ((Action.outcome (Graph.join (w.operand first second) r.assignment)
          (w.graph first)).map Prod.fst))
      else r
  | _ => registers

/-- What becomes of the registers under a command: they obey it and then follow their graphs. -/
def attend (w : Workspace) (registers : List Register) (command : Command) : List Register :=
  (w.obey registers command).map (Register.follow (w.step command).graph)

/-- Correspondences agree with registers, each with the one at its place. -/
def Agree (graph : GraphId → Graph) : List Correspondence → List Register → Prop :=
  List.Forall₂ (Agrees graph)

section Lists

variable {graph : GraphId → Graph} {maps : List Correspondence} {registers : List Register}
  {m : MapId} {c : Correspondence} {r : Register}

theorem Agree.at (agree : Agree graph maps registers) (m : MapId) :
    Agrees graph (maps.getD m {}) (registers.getD m {}) := by
  induction agree generalizing m with
  | nil => exact agrees_absent graph
  | cons head _ ih =>
    cases m with
    | zero => exact head
    | succ m => exact ih m

theorem Agree.modify (agree : Agree graph maps registers) {f : Register → Register}
    (changed : Agrees graph c (f (registers.getD m {}))) :
    Agree graph (maps.set m c) (registers.modify m f) := by
  induction agree generalizing m with
  | nil =>
    rw [List.set_nil, List.modify_nil]
    exact .nil
  | cons head rest ih =>
    cases m with
    | zero => exact .cons changed rest
    | succ m => exact .cons head (ih changed)

theorem Agree.set (agree : Agree graph maps registers) (changed : Agrees graph c r) :
    Agree graph (maps.set m c) (registers.set m r) := by
  rw [List.set_eq_modify r]
  exact agree.modify changed

theorem Agree.append (agree : Agree graph maps registers) (last : Agrees graph c r) :
    Agree graph (maps ++ [c]) (registers ++ [r]) :=
  List.rel_append agree (.cons last .nil)

theorem Agree.follow {later : GraphId → Graph} (agree : Agree graph maps registers)
    (wf : ∀ g, (graph g).WellFormed) (becomes : ∀ g, (graph g).Becomes (later g)) :
    Agree later maps (registers.map (Register.follow later)) := by
  refine List.forall₂_map_right_iff.mpr (agree.imp fun c r agrees => ?_)
  exact agrees.follow wf becomes

end Lists

/-! ## One command -/

variable {w : Workspace} {m : MapId} {g : GraphId} {registers : List Register}

/-- A command that assigns to one correspondence what is assigned to its register. -/
theorem Agree.assigned (agree : Agree w.graph w.maps registers) (wf : ∀ g, (w.graph g).WellFormed)
    {v : Workspace} {f : Register → Register} {entries : List (NodeId × Option Value)}
    (does : f (registers.getD m {}) = (registers.getD m {}).assignAll entries)
    (bound : ∀ g, (w.map m).graph? = some g →
      v = w.withValues m ((w.map m).values.putAll (w.graph g).nodes entries))
    (unbound : (w.map m).graph? = none → v = w) :
    Agree w.graph v.maps (registers.modify m f) := by
  have here : Agrees w.graph (w.map m) (registers.getD m {}) := agree.at m
  cases binding : (w.map m).graph? with
  | none =>
    have same : w.maps = w.maps.set m (w.map m) := congrArg Workspace.maps (setMap_map w m).symm
    rw [unbound binding, same]
    refine agree.modify ?_
    rw [does, here.assignAll_unbound binding]
    exact here
  | some g =>
    rw [bound g binding]
    refine agree.modify ?_
    rw [does]
    exact here.assignAll binding (wf g) entries

/-- A command that only acts on one correspondence. -/
theorem Agree.acted (agree : Agree w.graph w.maps registers) (wf : ∀ g, (w.graph g).WellFormed)
    {α : Type} {action : Graph → Action Assignment α} {command : Command}
    {f : Register → Register} {entries : List (NodeId × Option Value)}
    (acts : w.step command = (onMap m action).after w)
    (does : f (registers.getD m {}) = (registers.getD m {}).assignAll entries)
    (puts : ∀ g, (w.map m).graph? = some g → (action (w.graph g)).after (w.map m).values =
      (w.map m).values.putAll (w.graph g).nodes entries) :
    Agree w.graph (w.step command).maps (registers.modify m f) := by
  refine agree.assigned wf does (fun g bound => ?_) fun unbound => ?_
  · rw [acts, onMap_after bound, puts g bound]
  · rw [acts]
    exact after_of_error (onMap_unbound unbound)

/-- A command that only writes entries to one correspondence. -/
theorem Agree.written (agree : Agree w.graph w.maps registers) (wf : ∀ g, (w.graph g).WellFormed)
    {command : Command} {entries : List (NodeId × Option Value)}
    (writes : w.step command = (writeAll m entries).after w) :
    Agree w.graph (w.step command).maps (registers.modify m (·.assignAll entries)) := by
  refine agree.assigned wf rfl (fun g bound => ?_) fun unbound => ?_
  · rw [writes, writeAll_after bound]
  · rw [writes, writeAll_unbound unbound]

/-- Writing one correspondence to another writes what the register of the first has. -/
theorem step_writeFrom {other : MapId} {r : Register} (read : Agrees w.graph (w.map other) r)
    (m : MapId) : w.step (.writeFrom m other) = (writeAll m r.entries.entries).after w := by
  cases binding : (w.map other).graph? with
  | some h =>
    have listed : w.items other = .ok r.entries.entries := by
      rw [items, viewMap, boundGraph_of_bound binding, read.entries_eq h binding]
      rfl
    have asked : Action.query (items · other) w = .ok r.entries.entries w := query_of_ok listed
    have begins : run (.writeFrom m other) w =
        (writeAll m r.entries.entries >>= fun _ => return { answer := .done }) w :=
      bind_of_ok asked
    rw [step, after, begins]
    exact after_bind_pure (writeAll m _) _ w
  | none =>
    have refused : Action.query (items · other) w = .error .unbound w := by
      refine query_of_error ?_
      rw [items, viewMap, boundGraph_unbound binding]
      rfl
    rw [read.unbound binding]
    exact after_of_error (bind_of_error refused)

/-- A register that is left alone agrees with a correspondence that is left alone. -/
theorem Agree.kept (agree : Agree w.graph w.maps registers) {v : Workspace}
    {f : Register → Register} (does : f (registers.getD m {}) = registers.getD m {})
    (same : v.maps = w.maps) : Agree w.graph v.maps (registers.modify m f) := by
  have still : w.maps = w.maps.set m (w.map m) := congrArg Workspace.maps (setMap_map w m).symm
  rw [same, still]
  refine agree.modify ?_
  rw [does]
  exact agree.at m

/-- An operation records the images it has found in a correspondence, or fails and leaves it. -/
inductive Records (w : Workspace) (m : MapId) (nodes : List NodeId) :
    Except Failure (Table NodeId NodeId) → Workspace → Prop where
  | completed {images : Table NodeId NodeId} {v : Workspace}
      (inside : ∀ key ∈ images.keys, key ∈ nodes)
      (maps_eq : v.maps =
        w.maps.set m { (w.map m) with values := (w.map m).values.recordImages images }) :
      Records w m nodes (.ok images) v
  | failed {failure : Failure} {v : Workspace} (maps_eq : v.maps = w.maps) :
      Records w m nodes (.error failure) v

theorem Agree.recorded (agree : Agree w.graph w.maps registers)
    (wf : ∀ g, (w.graph g).WellFormed) (bound : (w.map m).graph? = some g)
    {outcome : Except Failure (Table NodeId NodeId)} {v : Workspace} {f : Register → Register}
    (does : f (registers.getD m {}) = (registers.getD m {}).assignAll (found outcome))
    (records : w.Records m (w.graph g).nodes outcome v) :
    Agree w.graph v.maps (registers.modify m f) := by
  cases records with
  | completed inside maps_eq =>
    rw [maps_eq]
    refine agree.modify ?_
    rw [does, Assignment.recordImages_eq_putAll inside]
    exact (agree.at m).assignAll bound (wf g) _
  | failed maps_eq => exact agree.kept does maps_eq

/-- A correspondence that an operation has made and filled agrees with a register opened for it. -/
theorem agrees_filled (wf : ∀ g, (w.graph g).WellFormed) (g : GraphId)
    {images : Table NodeId NodeId} (inside : ∀ key ∈ images.keys, key ∈ (w.graph g).nodes) :
    Agrees w.graph { graph? := some g, values := (∅ : Assignment).recordImages images }
      ((opened g (w.graph g).nodes).assignAll (found (.ok images))) := by
  rw [Assignment.recordImages_eq_putAll inside]
  exact (agrees_opened w.graph g).assignAll rfl (wf g) _

/-- A union fills its correspondence or fails. -/
theorem union_records (reached : w.Reachable) {first second : GraphId}
    (bound : w.isBoundTo m second = true) (policy : UnionPolicy) :
    w.Records m (w.graph second).nodes
      ((Action.outcome (Graph.union (w.graph second) (w.map m).values policy) (w.graph first)).map
        Prod.fst) (w.step (.union first second (some m) policy)) := by
  by_cases valid : (w.map m).values.PointsInto (w.graph second) (w.graph first)
  · have ran := Graph.union_run (reached.wellFormed first) (reached.wellFormed second) valid policy
    rw [Action.outcome, ran]
    refine .completed (Assignment.keys_unionImages_subset _ _ _) ?_
    exact congrArg Workspace.maps (after_of_ok (union_completes bound ran))
  · obtain ⟨node, value, refused⟩ := Graph.union_refuses valid policy
    rw [Action.outcome, refused]
    have left := congrArg Workspace.maps (after_of_error (union_fails bound refused))
    exact .failed left

/-- A join fills its correspondence or fails. -/
theorem join_records (reached : w.Reachable) {first second : GraphId}
    (bound : w.isBoundTo m second = true) :
    w.Records m (w.graph second).nodes
      ((Action.outcome (Graph.join (w.operand first second) (w.map m).values) (w.graph first)).map
        Prod.fst) (w.step (.join first second m)) := by
  cases ran : Graph.join (w.operand first second) (w.map m).values (w.graph first) with
  | error failure g =>
    rw [Action.outcome, ran]
    have left := congrArg Workspace.maps (after_of_error (join_fails bound ran))
    exact .failed left
  | ok answer g =>
    obtain ⟨images, event⟩ := answer
    have keys : images.keys = (w.graph second).nodes := by
      have other := reached.wellFormed second
      rw [← view_operand w first second] at other ⊢
      exact Graph.join_keys (reached.wellFormed first) other ran
    rw [Action.outcome, ran]
    refine .completed (fun key listed => keys ▸ listed) ?_
    exact congrArg Workspace.maps (after_of_ok (join_completes bound ran))

theorem disjointUnion_agrees (wf : ∀ g, (w.graph g).WellFormed)
    (agree : Agree w.graph w.maps registers) (first second : GraphId) :
    Agree w.graph (w.step (.disjointUnion first second)).maps
      (w.obey registers (.disjointUnion first second)) := by
  have ran := Graph.disjointUnion_run (g := w.graph first) (wf second)
  have left := congrArg Workspace.maps (after_of_ok (disjointUnion_completes ran))
  rw [maps_withMap_recorded] at left
  rw [obey, Action.outcome, ran, step, left]
  refine agree.append (agrees_filled wf second fun key listed => ?_)
  rw [Table.keys, Graph.keys_zip_handlesFrom] at listed
  exact listed

/-- A union that makes its own correspondence identifies nothing, so it completes. -/
theorem union_new_agrees (wf : ∀ g, (w.graph g).WellFormed)
    (agree : Agree w.graph w.maps registers) (first second : GraphId) (policy : UnionPolicy) :
    Agree w.graph (w.step (.union first second none policy)).maps
      (w.obey registers (.union first second none policy)) := by
  have nothing : (∅ : Assignment).PointsInto (w.graph second) (w.graph first) := by
    intro node _ value set
    cases set
  have ran := Graph.union_run (wf first) (wf second) nothing policy
  have left := congrArg Workspace.maps (after_of_ok (union_new_completes ran))
  rw [maps_withMap_recorded] at left
  rw [obey, Action.outcome, ran, step, left]
  exact agree.append (agrees_filled wf second (Assignment.keys_unionImages_subset _ _ _))

theorem union_agrees (reached : w.Reachable) (agree : Agree w.graph w.maps registers)
    (first second : GraphId) (m : MapId) (policy : UnionPolicy) :
    Agree w.graph (w.step (.union first second (some m) policy)).maps
      (w.obey registers (.union first second (some m) policy)) := by
  have here : Agrees w.graph (w.map m) (registers.getD m {}) := agree.at m
  cases bound : w.isBoundTo m second with
  | false =>
    have left : (w.step (.union first second (some m) policy)).maps = w.maps :=
      congrArg Workspace.maps (after_of_error (union_elsewhere bound))
    refine agree.kept ?_ left
    rw [if_neg (by rw [here.graph?_eq]; exact of_decide_eq_false bound)]
  | true =>
    have binding : (w.map m).graph? = some second := of_decide_eq_true bound
    refine agree.recorded reached.wellFormed binding ?_ (union_records reached bound policy)
    rw [if_pos (here.graph?_eq.trans binding), Action.outcome, Action.outcome,
      Graph.union_congr fun node held => here.get?_assignment binding held]

theorem join_agrees (reached : w.Reachable) (agree : Agree w.graph w.maps registers)
    (first second : GraphId) (m : MapId) :
    Agree w.graph (w.step (.join first second m)).maps
      (w.obey registers (.join first second m)) := by
  have here : Agrees w.graph (w.map m) (registers.getD m {}) := agree.at m
  cases bound : w.isBoundTo m second with
  | false =>
    have left : (w.step (.join first second m)).maps = w.maps :=
      congrArg Workspace.maps (after_of_error (join_elsewhere bound))
    refine agree.kept ?_ left
    rw [if_neg (by rw [here.graph?_eq]; exact of_decide_eq_false bound)]
  | true =>
    have binding : (w.map m).graph? = some second := of_decide_eq_true bound
    refine agree.recorded reached.wellFormed binding ?_ (join_records reached bound)
    rw [if_pos (here.graph?_eq.trans binding), Action.outcome, Action.outcome, Graph.join_congr]
    rw [view_operand]
    exact fun node held => here.get?_assignment binding held

/-- A command that changes no correspondence. -/
theorem Agree.silent {command : Command} (agree : Agree w.graph w.maps registers)
    (kept : Keeps SameMaps (run command)) : Agree w.graph (w.step command).maps registers := by
  have same : (w.step command).maps = w.maps := kept w
  rw [same]
  exact agree

/-- Registers that obey a command agree with what the command makes of the correspondences, as far
as the graphs are still what they were. -/
theorem obey_agrees (reached : w.Reachable) (agree : Agree w.graph w.maps registers)
    (command : Command) : Agree w.graph (w.step command).maps (w.obey registers command) := by
  have wf := reached.wellFormed
  cases command with
  | newGraph => exact agree.silent (keeps_bind (addGraph_sameMaps _) fun _ => keeps_pure _)
  | copy g =>
    exact agree.silent (keeps_bind keeps_get fun _ =>
      keeps_bind (addGraph_sameMaps _) fun _ => keeps_pure _)
  | newNode g => exact agree.silent (keeps_bind (onGraph_sameMaps g _) fun _ => keeps_pure _)
  | newEdge g source target =>
    exact agree.silent (keeps_bind (onGraph_sameMaps g _) fun _ => keeps_pure _)
  | deleteNode g node =>
    exact agree.silent (keeps_bind (onGraph_sameMaps g _) fun _ => keeps_pure _)
  | deleteEdge g edge =>
    exact agree.silent (keeps_bind (onGraph_sameMaps g _) fun _ => keeps_pure _)
  | clear g => exact agree.silent (keeps_bind (onGraph_sameMaps g _) fun _ => keeps_pure _)
  | insert g other =>
    exact agree.silent (keeps_bind keeps_get fun _ =>
      keeps_bind (onGraph_sameMaps g _) fun _ => keeps_pure _)
  | removeParallel g directed =>
    exact agree.silent (keeps_bind (onGraph_sameMaps g _) fun _ => keeps_pure _)
  | complement g policy =>
    exact agree.silent (keeps_bind (onGraph_sameMaps g _) fun _ => keeps_pure _)
  | intersection first second m =>
    exact agree.silent (keeps_bind (requireBinding_sameMaps m first _) fun _ =>
      keeps_bind keeps_get fun _ => keeps_bind (onGraph_sameMaps first _) fun _ => keeps_pure _)
  | product kind root first second destination grid =>
    exact agree.silent (product_sameMaps kind root first second destination grid)
  | buildGrid rule first second destination grid =>
    exact agree.silent (keeps_bind keeps_get fun _ =>
      keeps_bind (onBuild_sameMaps destination grid _ _) fun (_, _) => keeps_pure _)
  | newGrid => exact agree.silent (keeps_bind (addGrid_sameMaps {}) fun _ => keeps_pure _)
  | assign grid first second node =>
    exact agree.silent (keeps_bind (keeps_modify fun _ => rfl) fun _ => keeps_pure _)
  | clearGrid grid =>
    exact agree.silent (keeps_bind (keeps_modify fun _ => rfl) fun _ => keeps_pure _)
  | newMap g =>
    cases g with
    | none => exact agree.append (agrees_absent w.graph)
    | some g => exact agree.append (agrees_opened w.graph g)
  | bind m g => exact agree.set (agrees_opened w.graph g)
  | write m node value =>
    have acts : w.step (.write m node value) = (onMap m (Assignment.write · node value)).after w :=
      after_bind_pure (onMap m (Assignment.write · node value)) _ w
    exact agree.acted wf acts rfl fun _ _ => Assignment.write_after _ node value
  | writeAll m entries =>
    have writes : w.step (.writeAll m entries) = (writeAll m entries).after w :=
      after_bind_pure (writeAll m entries) _ w
    exact agree.written wf writes
  | writeFrom m other => exact agree.written wf (step_writeFrom (agree.at other) m)
  | take m node default =>
    have acts : w.step (.take m node default) =
        (onMap m (Assignment.take · node default)).after w :=
      after_bind_pure (onMap m (Assignment.take · node default)) _ w
    exact agree.acted wf acts rfl fun _ _ => Assignment.take_after _ node default
  | takeFirst m =>
    have here : Agrees w.graph (w.map m) (registers.getD m {}) := agree.at m
    have acts : w.step (.takeFirst m) = (onMap m Assignment.takeFirst).after w :=
      after_bind_pure (onMap m Assignment.takeFirst)
        (fun entry => ({ answer := .entry entry.1 entry.2 } : Reply)) w
    refine agree.acted wf acts rfl fun g bound => ?_
    rw [Assignment.takeFirst_after, here.keys_eq bound]
  | readOrWrite m node default =>
    have left : w.step (.readOrWrite m node default) = w :=
      (after_bind_pure (onMap m (Assignment.readOrWrite · node default)) _ w).trans
        (readOrWrite_same w m node default)
    rw [left]
    exact agree
  | disjointUnion first second => exact disjointUnion_agrees wf agree first second
  | union first second map policy =>
    cases map with
    | none => exact union_new_agrees wf agree first second policy
    | some m => exact union_agrees reached agree first second m policy
  | join first second m => exact join_agrees reached agree first second m

/-- Registers that attend to a command agree with what it leaves. -/
theorem attend_agrees (reached : w.Reachable) {command : Command} (proper : command.Proper)
    (agree : Agree w.graph w.maps registers) :
    Agree (w.step command).graph (w.step command).maps (w.attend registers command) :=
  (obey_agrees reached agree command).follow reached.wellFormed
    (step_grows w proper reached.grown).2

end Workspace

end Multigraph
