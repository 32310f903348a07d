import Multigraph.Proofs.Operation.Aliased
import Multigraph.Proofs.Operation.Union
import Multigraph.Proofs.Workspace.Merge

/-!
When union, join and intersection refuse a correspondence. Each asks first whether the
correspondence is bound as it has to be and whether all its values point into the other graph, and
changes nothing before it has asked. If either fails, the workspace is left as it is; if neither
does, the operation on two graphs completes, and one on a graph and itself fails for other reasons
if at all (`merging_refusals`).
-/
namespace Multigraph

open Multigraph.Action

namespace Graph

variable {first second : Graph} {values : Assignment}

/-- A union refuses values outside the first graph before it changes anything. -/
theorem union_refuses (invalid : ¬ values.PointsInto second first) (policy : UnionPolicy) :
    ∃ node value, union second values policy first =
      .error (.identifiedOutside node value) first := by
  obtain ⟨node, _, value, _, _, refused⟩ :=
    Assignment.resolve_refuses invalid .identifiedOutside
  refine ⟨node, value, ?_⟩
  rw [union, get_bind_run]
  exact bind_of_error (query_of_error refused)

/-- A join refuses values outside the first graph before it changes anything. -/
theorem join_refuses (operand : Operand)
    (invalid : ¬ values.PointsInto (operand.view first) first) :
    ∃ node value, join operand values first = .error (.identifiedOutside node value) first := by
  obtain ⟨node, _, value, _, _, refused⟩ :=
    Assignment.resolve_refuses invalid .identifiedOutside
  refine ⟨node, value, ?_⟩
  rw [join, get_bind_run]
  exact bind_of_error (query_of_error refused)

/-- An intersection refuses values outside the second graph before it changes anything. -/
theorem intersection_refuses (operand : Operand)
    (invalid : ¬ values.PointsInto first (operand.view first)) :
    ∃ node value, intersection operand values first =
      .error (.correspondsOutside node value) first := by
  obtain ⟨node, _, value, _, _, refused⟩ :=
    Assignment.resolve_refuses invalid .correspondsOutside
  refine ⟨node, value, ?_⟩
  rw [intersection, get_bind_run]
  exact bind_of_error (query_of_error refused)

/-- In a graph with nodes there is a first identified node or a first node. -/
theorem exists_stuck (values : Assignment) {head : NodeId} {rest : List NodeId}
    (nodes : first.nodes = head :: rest) :
    ∃ node, (first.nodes.find? fun other => (values.get? other).isSome).or first.nodes.head? =
      some node := by
  refine Option.isSome_iff_exists.mp ?_
  rw [Option.isSome_or, nodes, List.head?_cons, Option.isSome_some, Bool.or_true]

/-- Under values that point into the graph, a join with itself does not fail for their sake. -/
theorem join_same_category (wf : first.WellFormed) (valid : values.PointsInto first first)
    {failure : Failure} {g : Graph} (failed : join .same values first = .error failure g) :
    failure.category = .key := by
  cases nodes : first.nodes with
  | nil =>
    obtain ⟨_, _, ran⟩ := join_same_empty wf nodes values
    rw [ran] at failed
    cases failed
  | cons head rest =>
    obtain ⟨_, stuck⟩ := exists_stuck values nodes
    obtain ⟨_, stopped, _⟩ := join_same_stuck wf valid stuck
    rw [stopped] at failed
    cases failed
    rfl

/-- A join that succeeds has placed the nodes of the second graph and no others. -/
theorem join_keys {operand : Operand} (wf : first.WellFormed)
    (other : (operand.view first).WellFormed) {images : Table NodeId NodeId} {event : Event}
    {g : Graph} (ran : join operand values first = .ok (images, event) g) :
    images.keys = (operand.view first).nodes := by
  have valid : values.PointsInto (operand.view first) first := by
    by_contra invalid
    obtain ⟨_, _, refused⟩ := join_refuses operand invalid
    rw [refused] at ran
    cases ran
  cases operand with
  | other second =>
    rw [Operand.view_other] at other valid ⊢
    obtain ⟨placed, _, settled, joined⟩ := join_run wf other valid
    rw [joined] at ran
    cases ran
    exact settled.keys_eq
  | same =>
    cases nodes : first.nodes with
    | nil =>
      obtain ⟨_, _, joined⟩ := join_same_empty wf nodes values
      rw [joined] at ran
      cases ran
      exact nodes.symm
    | cons head rest =>
      obtain ⟨_, stuck⟩ := exists_stuck values nodes
      obtain ⟨_, stopped, _⟩ := join_same_stuck wf valid stuck
      rw [stopped] at ran
      cases ran

/-- Under values that point into the graph, an intersection with itself does not fail for their
sake. -/
theorem intersection_same_category (wf : first.WellFormed)
    (valid : values.PointsInto first first) {failure : Failure} {g : Graph}
    (failed : intersection .same values first = .error failure g) :
    failure.category = .graph := by
  by_cases closed : ∀ node ∈ first.nodes, ∀ image, values.target? node = some image →
      (values.get? image).isSome = true
  · obtain ⟨_, _, ran⟩ := intersection_same_run wf valid closed
    rw [ran] at failed
    cases failed
  · push Not at closed
    obtain ⟨node, held, image, target, unset⟩ := closed
    obtain ⟨_, _, stopped⟩ := intersection_same_stuck wf valid held target
      (Option.not_isSome_iff_eq_none.mp unset)
    rw [stopped] at failed
    cases failed
    rfl

end Graph

namespace Workspace

variable {w : Workspace} {first second domain codomain : GraphId} {m : MapId}

/-! ## Refusing a correspondence -/

/-- The correspondence does not take the nodes of one graph to nodes of another: it is not bound to
the one, or has a value there that is no node of the other. -/
def Misfits (w : Workspace) (m : MapId) (domain codomain : GraphId) : Prop :=
  w.isBoundTo m domain = false ∨ ∃ node ∈ (w.graph domain).nodes, ∃ value,
    (w.map m).values.get? node = some value ∧
      ∀ image ∈ (w.graph codomain).nodes, value ≠ .int image

/-- The command fails, and on account of a correspondence. -/
def Refuses (w : Workspace) (command : Command) : Prop :=
  ∃ failure after, run command w = .error failure after ∧ failure.category = .correspondence

theorem not_misfits_iff : ¬ w.Misfits m domain codomain ↔ w.isBoundTo m domain = true ∧
    (w.map m).values.PointsInto (w.graph domain) (w.graph codomain) := by
  simp only [Misfits, Assignment.PointsInto, not_or, Bool.not_eq_false]
  push Not
  exact Iff.rfl

/-- What refuses a correspondence in the workspace, when the operation refuses its values on the
graphs before it changes anything and never fails for their sake otherwise. -/
theorem refuses_iff (w : Workspace) (command : Command) (misfit : Prop)
    (refused : misfit → ∃ failure, run command w = .error failure w ∧
      failure.category = .correspondence)
    (otherwise : ¬ misfit → ∀ failure after, run command w = .error failure after →
      failure.category ≠ .correspondence) :
    (w.Refuses command ↔ misfit) ∧ ∀ failure after, run command w = .error failure after →
      failure.category = .correspondence → after = w := by
  have unfit : ∀ failure after, run command w = .error failure after →
      failure.category = .correspondence → misfit := by
    intro failure after failed category
    by_contra fit
    exact otherwise fit failure after failed category
  refine ⟨⟨?_, ?_⟩, ?_⟩
  · rintro ⟨failure, after, failed, category⟩
    exact unfit failure after failed category
  · intro misfit
    obtain ⟨failure, failed, category⟩ := refused misfit
    exact ⟨failure, w, failed, category⟩
  · intro failure after failed category
    obtain ⟨_, unchanged, _⟩ := refused (unfit failure after failed category)
    rw [unchanged] at failed
    cases failed
    rfl

/-- A correspondence that is bound but does not fit has a value outside. -/
theorem Misfits.outside (misfit : w.Misfits m domain codomain)
    (bound : w.isBoundTo m domain = true) :
    ¬ (w.map m).values.PointsInto (w.graph domain) (w.graph codomain) := fun valid =>
  not_misfits_iff.mpr ⟨bound, valid⟩ misfit

/-! ## The operations -/

theorem union_misfit (misfit : w.Misfits m second first) (policy : UnionPolicy) :
    ∃ failure, run (.union first second (some m) policy) w = .error failure w ∧
      failure.category = .correspondence := by
  cases bound : w.isBoundTo m second with
  | false => exact ⟨_, union_elsewhere bound, rfl⟩
  | true =>
    obtain ⟨node, value, refused⟩ := Graph.union_refuses (misfit.outside bound) policy
    have failed := union_fails bound refused
    rw [setGraph_graph] at failed
    exact ⟨_, failed, rfl⟩

theorem join_misfit (misfit : w.Misfits m second first) :
    ∃ failure, run (.join first second m) w = .error failure w ∧
      failure.category = .correspondence := by
  cases bound : w.isBoundTo m second with
  | false => exact ⟨_, join_elsewhere bound, rfl⟩
  | true =>
    have outside := misfit.outside bound
    rw [← view_operand w first second] at outside
    obtain ⟨node, value, refused⟩ := Graph.join_refuses (w.operand first second) outside
    have failed := join_fails bound refused
    rw [setGraph_graph] at failed
    exact ⟨_, failed, rfl⟩

theorem intersection_misfit (misfit : w.Misfits m first second) :
    ∃ failure, run (.intersection first second m) w = .error failure w ∧
      failure.category = .correspondence := by
  cases bound : w.isBoundTo m first with
  | false => exact ⟨_, intersection_elsewhere bound, rfl⟩
  | true =>
    have outside := misfit.outside bound
    rw [← view_operand w first second] at outside
    obtain ⟨node, value, refused⟩ := Graph.intersection_refuses (w.operand first second) outside
    have failed := intersection_fails bound refused
    rw [setGraph_graph] at failed
    exact ⟨_, failed, rfl⟩

/-- Where its correspondence fits, or none is given, a union completes. -/
theorem union_fits (reached : w.Reachable) {map : Option MapId}
    (fits : ¬ ∃ m, map = some m ∧ w.Misfits m second first) (policy : UnionPolicy) :
    ∃ reply after, run (.union first second map policy) w = .ok reply after := by
  have wf := reached.wellFormed first
  have other := reached.wellFormed second
  cases map with
  | some m =>
    obtain ⟨bound, valid⟩ := not_misfits_iff.mp fun misfit => fits ⟨m, rfl, misfit⟩
    exact ⟨_, _, union_completes bound (Graph.union_run wf other valid policy)⟩
  | none =>
    have nothing : (∅ : Assignment).PointsInto (w.graph second) (w.graph first) := by
      intro node _ value set
      cases set
    exact ⟨_, _, union_new_completes (Graph.union_run wf other nothing policy)⟩

/-- Where its correspondence fits, a join of two graphs completes. -/
theorem join_fits (reached : w.Reachable) (apart : first ≠ second)
    (fits : ¬ w.Misfits m second first) :
    ∃ reply after, run (.join first second m) w = .ok reply after := by
  obtain ⟨bound, valid⟩ := not_misfits_iff.mp fits
  obtain ⟨images, g, _, ran⟩ :=
    Graph.join_run (reached.wellFormed first) (reached.wellFormed second) valid
  exact ⟨_, _, join_command apart bound ran⟩

/-- Where its correspondence fits, an intersection of two graphs completes. -/
theorem intersection_fits (reached : w.Reachable) (apart : first ≠ second)
    (fits : ¬ w.Misfits m first second) :
    ∃ reply after, run (.intersection first second m) w = .ok reply after := by
  obtain ⟨bound, valid⟩ := not_misfits_iff.mp fits
  exact ⟨_, _, intersection_command apart bound
    (Graph.intersection_run (reached.wellFormed first) valid)⟩

/-- Where its correspondence fits, a join of a graph with itself does not fail on its account. -/
theorem join_self_category (reached : w.Reachable) {g : GraphId} (fits : ¬ w.Misfits m g g)
    {failure : Failure} {after : Workspace} (failed : run (.join g g m) w = .error failure after) :
    failure.category = .key := by
  obtain ⟨bound, valid⟩ := not_misfits_iff.mp fits
  cases ran : Graph.join (w.operand g g) (w.map m).values (w.graph g) with
  | ok answer h =>
    rw [join_completes bound ran] at failed
    cases failed
  | error cause h =>
    rw [join_fails bound ran] at failed
    cases failed
    rw [operand_same] at ran
    exact Graph.join_same_category (reached.wellFormed g) valid ran

/-- Where its correspondence fits, an intersection of a graph with itself does not fail on its
account. -/
theorem intersection_self_category (reached : w.Reachable) {g : GraphId}
    (fits : ¬ w.Misfits m g g) {failure : Failure} {after : Workspace}
    (failed : run (.intersection g g m) w = .error failure after) :
    failure.category = .graph := by
  obtain ⟨bound, valid⟩ := not_misfits_iff.mp fits
  cases ran : Graph.intersection (w.operand g g) (w.map m).values (w.graph g) with
  | ok answer h =>
    rw [intersection_completes bound ran] at failed
    cases failed
  | error cause h =>
    rw [intersection_fails bound ran] at failed
    cases failed
    rw [operand_same] at ran
    exact Graph.intersection_same_category (reached.wellFormed g) valid ran

/-- Where its correspondence fits, a join does not refuse it, be the graphs two or one. -/
theorem join_fits_category (reached : w.Reachable) {first second : GraphId}
    (fits : ¬ w.Misfits m second first) (failure : Failure) (after : Workspace)
    (failed : run (.join first second m) w = .error failure after) :
    failure.category ≠ .correspondence := by
  by_cases apart : first = second
  · subst apart
    rw [join_self_category reached fits failed]
    decide
  · obtain ⟨_, _, completed⟩ := join_fits reached apart fits
    rw [completed] at failed
    cases failed

/-- Where its correspondence fits, an intersection does not refuse it, be the graphs two or one. -/
theorem intersection_fits_category (reached : w.Reachable) {first second : GraphId}
    (fits : ¬ w.Misfits m first second) (failure : Failure) (after : Workspace)
    (failed : run (.intersection first second m) w = .error failure after) :
    failure.category ≠ .correspondence := by
  by_cases apart : first = second
  · subst apart
    rw [intersection_self_category reached fits failed]
    decide
  · obtain ⟨_, _, completed⟩ := intersection_fits reached apart fits
    rw [completed] at failed
    cases failed

/-- In every workspace that commands lead to, whatever the state of the correspondence and even if
the two graphs are one: union and join refuse a correspondence exactly if it is not bound to the
second graph or has a value there that is no node of the first, and an intersection exactly if it
is not bound to the first graph or has a value there that is no node of the second. A command that
refuses a correspondence leaves the workspace as it was. On two graphs, a command that does not
refuse its correspondence completes. -/
theorem merging_refusals (reached : w.Reachable) (first second : GraphId) (m : MapId)
    (map : Option MapId) (policy : UnionPolicy) :
    (w.Refuses (.union first second map policy) ↔
      ∃ given, map = some given ∧ w.Misfits given second first) ∧
    (w.Refuses (.join first second m) ↔ w.Misfits m second first) ∧
    (w.Refuses (.intersection first second m) ↔ w.Misfits m first second) ∧
    ∀ command ∈ [Command.union first second map policy, .join first second m,
        .intersection first second m],
      (∀ failure after, run command w = .error failure after →
        failure.category = .correspondence → after = w) ∧
      (first ≠ second → ¬ w.Refuses command →
        ∃ reply after, run command w = .ok reply after) := by
  have union := w.refuses_iff (.union first second map policy)
    (∃ given, map = some given ∧ w.Misfits given second first)
    (by
      rintro ⟨given, rfl, misfit⟩
      exact union_misfit misfit policy)
    (by
      intro fits failure after failed
      obtain ⟨_, _, completed⟩ := union_fits reached fits policy
      rw [completed] at failed
      cases failed)
  have join := w.refuses_iff (.join first second m) (w.Misfits m second first) join_misfit
    (join_fits_category reached)
  have intersection := w.refuses_iff (.intersection first second m) (w.Misfits m first second)
    intersection_misfit (intersection_fits_category reached)
  refine ⟨union.1, join.1, intersection.1, fun command listed => ?_⟩
  simp only [List.mem_cons, List.not_mem_nil, or_false] at listed
  rcases listed with rfl | rfl | rfl
  · refine ⟨union.2, fun _ fits => ?_⟩
    exact union_fits reached (fun misfit => fits (union.1.mpr misfit)) policy
  · exact ⟨join.2, fun apart fits =>
      join_fits reached apart fun misfit => fits (join.1.mpr misfit)⟩
  · exact ⟨intersection.2, fun apart fits =>
      intersection_fits reached apart fun misfit => fits (intersection.1.mpr misfit)⟩

/-- Two graphs and a correspondence from the second to the first, of whose targets one has been
deleted since. -/
def outdated : List Command :=
  [.newGraph, .newNode 0, .newNode 0, .newEdge 0 0 1, .newGraph, .newNode 1, .newNode 1,
    .newEdge 1 1 0, .newMap (some 1), .write 0 0 (some (.int 0)), .write 0 1 (some (.int 1)),
    .deleteNode 0 1]

theorem merging_refusals_outdated :
    Reachable (runAll {} outdated) ∧
    (runAll {} outdated).Refuses (.union 0 1 (some 0) {}) ∧
    (runAll {} outdated).Refuses (.join 0 1 0) ∧
    (runAll {} outdated).Refuses (.intersection 0 1 0) ∧
    ∃ reply after, run (.union 0 1 none {}) (runAll {} outdated) = .ok reply after := by
  have reached : Reachable (runAll {} outdated) :=
    reachable_runAll .empty (by simp [outdated, Command.Proper])
  have misfit : (runAll {} outdated).Misfits 0 1 0 :=
    .inr ⟨1, by decide +kernel, .int 1, by decide +kernel, by decide +kernel⟩
  have elsewhere : (runAll {} outdated).Misfits 0 0 1 := .inl (by decide +kernel)
  obtain ⟨union, join, intersection, _⟩ := merging_refusals reached 0 1 0 (some 0) {}
  obtain ⟨unmapped, _, _, completes⟩ := merging_refusals reached 0 1 0 none {}
  refine ⟨reached, union.mpr ⟨0, rfl, misfit⟩, join.mpr misfit, intersection.mpr elsewhere, ?_⟩
  refine (completes _ List.mem_cons_self).2 (by decide) fun refused => ?_
  obtain ⟨_, given, _⟩ := unmapped.mp refused
  cases given

end Workspace

end Multigraph
