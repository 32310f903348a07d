import Multigraph.Proofs.Workspace.Reachable

/-!
The commands that combine graphs, told by what the operations do on the graphs: when a
correspondence is bound elsewhere nothing happens, and otherwise the command goes the way of the
operation. The graphs may be one, and a product may have a factor for its destination. Where the
graphs are two, the operand is the second as it is (`join_command`, `intersection_command`).
-/
namespace Multigraph.Workspace

open Multigraph.Action

variable {w : Workspace} {first second : GraphId} {m : MapId} {failure : Failure} {event : Event}
  {g : Graph} {images : Table NodeId NodeId} {policy : UnionPolicy}

/-- Of two graphs put in one place the later one stays. -/
theorem setGraph_setGraph (w : Workspace) (id : GraphId) (g h : Graph) :
    (w.setGraph id g).setGraph id h = w.setGraph id h := by
  simp only [setGraph, List.set_set]

/-- An action that fails on a graph of the workspace leaves the graph as far as it got. -/
theorem onGraph_failed {α : Type} {id : GraphId} {action : Action Graph α}
    (failed : action (w.graph id) = .error failure g) :
    onGraph id action w = .error failure (w.setGraph id g) := within_of_error failed

/-- What a build has made is put in the places of its destination and its grid. -/
theorem onBuild_run {α μ : Type} {destination : GraphId} {id : GridId} {memory : μ}
    {action : Action (Build μ) α} {answer : α} {left : Build μ}
    (ran : action { graph := w.graph destination, grid := w.grid id, memory := memory } =
      .ok answer left) :
    onBuild destination id memory action w =
      .ok answer ((w.setGraph destination left.graph).setGrid id left.grid) :=
  within_of_ok ran

/-- A build that fails leaves its destination and its grid as far as it got. -/
theorem onBuild_failed {α μ : Type} {destination : GraphId} {id : GridId} {memory : μ}
    {action : Action (Build μ) α} {left : Build μ}
    (failed : action { graph := w.graph destination, grid := w.grid id, memory := memory } =
      .error failure left) :
    onBuild destination id memory action w =
      .error failure ((w.setGraph destination left.graph).setGrid id left.grid) :=
  within_of_error failed

theorem requireBinding_failed (elsewhere : w.isBoundTo m first = false) (failure : Failure) :
    requireBinding m first failure w = .error failure w := by
  rw [requireBinding, get_bind_run, if_neg (by simp [elsewhere])]
  rfl

/-! ## Union -/

theorem union_elsewhere (elsewhere : w.isBoundTo m second = false) :
    run (.union first second (some m) policy) w = .error .unionMapElsewhere w :=
  bind_of_error (bind_of_error (requireBinding_failed elsewhere _))

/-- Once the correspondence that it fills is there, a union goes the way of the operation. -/
theorem union_recorded {map : Option MapId} {v : Workspace}
    (mapped : unionMap second map w = .ok m v)
    (ran : Graph.union (v.graph second) (v.map m).values policy (v.graph first) =
      .ok (images, event) g) :
    run (.union first second map policy) w =
      .ok { answer := .map m, event := some event } (v.recorded first g m images) := by
  refine (bind_of_ok mapped).trans ((get_bind_run _ v).trans ?_)
  exact (bind_of_ok (onGraph_run ran)).trans (bind_of_ok (recordImages_run _ m images))

theorem union_completes (bound : w.isBoundTo m second = true)
    (ran : Graph.union (w.graph second) (w.map m).values policy (w.graph first) =
      .ok (images, event) g) :
    run (.union first second (some m) policy) w =
      .ok { answer := .map m, event := some event } (w.recorded first g m images) :=
  union_recorded (bind_of_ok (requireBinding_run bound _)) ran

theorem union_fails (bound : w.isBoundTo m second = true)
    (failed : Graph.union (w.graph second) (w.map m).values policy (w.graph first) =
      .error failure g) :
    run (.union first second (some m) policy) w = .error failure (w.setGraph first g) := by
  have mapped : unionMap second (some m) w = .ok m w := bind_of_ok (requireBinding_run bound _)
  refine (bind_of_ok mapped).trans ((get_bind_run _ w).trans ?_)
  exact bind_of_error (onGraph_failed failed)

/-- The workspace with a new correspondence for a graph. -/
def withMap (w : Workspace) (g : GraphId) : Workspace :=
  { w with maps := w.maps ++ [{ graph? := some g }] }

theorem map_withMap (w : Workspace) (g : GraphId) :
    (w.withMap g).map w.maps.length = { graph? := some g } := by
  simp [withMap, map]

theorem map_withMap_earlier (earlier : m < w.maps.length) : (w.withMap first).map m = w.map m := by
  simp [withMap, map, List.getElem?_append_left earlier]

theorem map_setMap_ne {other : MapId} (apart : other ≠ m) (w : Workspace) (c : Correspondence) :
    (w.setMap m c).map other = w.map other := by
  simp [map, setMap, Ne.symm apart]

/-- Without a correspondence a union fills a new one. -/
theorem union_new_completes
    (ran : Graph.union (w.graph second) ∅ policy (w.graph first) = .ok (images, event) g) :
    run (.union first second none policy) w =
      .ok { answer := .map w.maps.length, event := some event }
        ((w.withMap second).recorded first g w.maps.length images) := by
  have mapped : unionMap second none w = .ok w.maps.length (w.withMap second) := rfl
  refine union_recorded mapped ?_
  rw [map_withMap]
  exact ran

/-- The maps when an operation has recorded images in one of them. -/
theorem maps_recorded (w : Workspace) (id : GraphId) (g : Graph) (m : MapId)
    (images : Table NodeId NodeId) :
    (w.recorded id g m images).maps =
      w.maps.set m { (w.map m) with values := (w.map m).values.recordImages images } := rfl

theorem maps_withMap_recorded (w : Workspace) (id second : GraphId) (g : Graph)
    (images : Table NodeId NodeId) :
    ((w.withMap second).recorded id g w.maps.length images).maps = w.maps ++
      [{ graph? := some second, values := (∅ : Assignment).recordImages images }] := by
  rw [maps_recorded, map_withMap, withMap, List.set_append_right _ _ (Nat.le_refl _), Nat.sub_self]
  rfl

/-- A disjoint union fills a new correspondence. -/
theorem disjointUnion_completes
    (ran : Graph.disjointUnion (w.graph second) (w.graph first) = .ok images g) :
    run (.disjointUnion first second) w = .ok { answer := .map w.maps.length, event := none }
      ((w.withMap second).recorded first g w.maps.length images) := by
  refine (get_bind_run _ w).trans ((bind_of_ok (onGraph_run ran)).trans ?_)
  rfl

/-! ## Join -/

theorem join_elsewhere (elsewhere : w.isBoundTo m second = false) :
    run (.join first second m) w = .error .joinMapElsewhere w :=
  bind_of_error (requireBinding_failed elsewhere _)

theorem join_completes (bound : w.isBoundTo m second = true)
    (ran : Graph.join (w.operand first second) (w.map m).values (w.graph first) =
      .ok (images, event) g) :
    run (.join first second m) w =
      .ok { answer := .map m, event := some event } (w.recorded first g m images) := by
  refine (bind_of_ok (requireBinding_run bound _)).trans ((get_bind_run _ w).trans ?_)
  exact (bind_of_ok (onGraph_run ran)).trans (bind_of_ok (recordImages_run _ m images))

theorem join_fails (bound : w.isBoundTo m second = true)
    (failed : Graph.join (w.operand first second) (w.map m).values (w.graph first) =
      .error failure g) :
    run (.join first second m) w = .error failure (w.setGraph first g) := by
  refine (bind_of_ok (requireBinding_run bound _)).trans ((get_bind_run _ w).trans ?_)
  exact bind_of_error (onGraph_failed failed)

/-! ## Intersection -/

theorem intersection_elsewhere (elsewhere : w.isBoundTo m first = false) :
    run (.intersection first second m) w = .error .intersectionMapElsewhere w :=
  bind_of_error (requireBinding_failed elsewhere _)

theorem intersection_completes (bound : w.isBoundTo m first = true)
    (ran : Graph.intersection (w.operand first second) (w.map m).values (w.graph first) =
      .ok event g) :
    run (.intersection first second m) w =
      .ok { answer := .done, event := some event } (w.setGraph first g) := by
  refine (bind_of_ok (requireBinding_run bound _)).trans ((get_bind_run _ w).trans ?_)
  exact bind_of_ok (onGraph_run ran)

theorem intersection_fails (bound : w.isBoundTo m first = true)
    (failed : Graph.intersection (w.operand first second) (w.map m).values (w.graph first) =
      .error failure g) :
    run (.intersection first second m) w = .error failure (w.setGraph first g) := by
  refine (bind_of_ok (requireBinding_run bound _)).trans ((get_bind_run _ w).trans ?_)
  exact bind_of_error (onGraph_failed failed)

/-! ## Operands -/

theorem operand_same (w : Workspace) (id : GraphId) : w.operand id id = .same := if_pos rfl

theorem operand_other (apart : first ≠ second) :
    w.operand first second = .other (w.graph second) := if_neg (Ne.symm apart)

/-- A join with another graph goes the way of the operation. -/
theorem join_command (apart : first ≠ second) (bound : w.isBoundTo m second = true)
    (ran : Graph.join (.other (w.graph second)) (w.map m).values (w.graph first) =
      .ok (images, event) g) :
    run (.join first second m) w =
      .ok { answer := .map m, event := some event } (w.recorded first g m images) := by
  rw [← operand_other apart] at ran
  exact join_completes bound ran

/-- An intersection with another graph goes the way of the operation. -/
theorem intersection_command (apart : first ≠ second) (bound : w.isBoundTo m first = true)
    (ran : Graph.intersection (.other (w.graph second)) (w.map m).values (w.graph first) =
      .ok event g) :
    run (.intersection first second m) w =
      .ok { answer := .done, event := some event } (w.setGraph first g) := by
  rw [← operand_other apart] at ran
  exact intersection_completes bound ran

/-- At first the operand is the second graph, whichever it is. -/
theorem view_operand (w : Workspace) (first second : GraphId) :
    (w.operand first second).view (w.graph first) = w.graph second := by
  by_cases apart : first = second
  · subst apart
    rw [operand_same, Operand.view_same]
  · rw [operand_other apart, Operand.view_other]

theorem graph_congr {v : Workspace} (same : v.graphs = w.graphs) (id : GraphId) :
    v.graph id = w.graph id := by simp only [graph, same]

theorem operand_congr {v : Workspace} (same : v.graphs = w.graphs) (changed id : GraphId) :
    v.operand changed id = w.operand changed id := by
  rw [operand, operand, graph_congr same]

/-! ## Products -/

variable {kind : Datum} {root : Option NodeId} {destination : GraphId} {grid : Option GridId}
  {build : Build Unit}

/-- What is left of a product once the grid that it fills is there. -/
def fillGrid (kind : Datum) (root : Option NodeId) (first second destination : GraphId)
    (id : GridId) : Action Workspace Reply := do
  let w ← get
  let event ← onBuild destination id ()
    (Product.request kind root (w.operand destination first) (w.operand destination second))
  return { answer := .grid id, event := event }

theorem fillGrid_run {v : Workspace} (same : v.graphs = w.graphs) {id : GridId}
    (ran : Product.request kind root (w.operand destination first) (w.operand destination second)
      { graph := w.graph destination, grid := v.grid id, memory := () } = .ok event build) :
    fillGrid kind root first second destination id v =
      .ok { answer := .grid id, event := some event }
        ((v.setGraph destination build.graph).setGrid id build.grid) := by
  have built : onBuild destination id () (Product.request kind root (v.operand destination first)
      (v.operand destination second)) v = .ok event
        ((v.setGraph destination build.graph).setGrid id build.grid) := by
    rw [operand_congr same, operand_congr same]
    rw [← graph_congr same destination] at ran
    exact onBuild_run ran
  exact (get_bind_run _ v).trans (bind_of_ok built)

/-- A product goes the way of its build, whether a grid is given or not. -/
theorem product_completes (held : destination < w.graphs.length)
    (present : ∀ id, grid = some id → id < w.grids.length)
    (ran : Product.request kind root (w.operand destination first) (w.operand destination second)
      { graph := w.graph destination, grid := (grid.map w.grid).getD {}, memory := () } =
        .ok event build) :
    ∃ after id,
      run (.product kind root first second destination grid) w =
        .ok { answer := .grid id, event := some event } after ∧
      (∀ given, grid = some given → id = given) ∧
      after.graph destination = build.graph ∧ after.grid id = build.grid ∧
      ∀ other, other ≠ destination → after.graph other = w.graph other := by
  obtain ⟨id, v, onward, given, same, there⟩ : ∃ id, ∃ v : Workspace,
      run (.product kind root first second destination grid) w =
        .ok { answer := .grid id, event := some event }
          ((v.setGraph destination build.graph).setGrid id build.grid) ∧
      (∀ known, grid = some known → id = known) ∧ v.graphs = w.graphs ∧ id < v.grids.length := by
    cases grid with
    | some id =>
      exact ⟨id, w, fillGrid_run rfl ran, fun _ => Option.some.inj, rfl, present id rfl⟩
    | none =>
      have fresh : ({ w with grids := w.grids ++ [{}] } : Workspace).grid w.grids.length = {} := by
        simp [Workspace.grid]
      refine ⟨w.grids.length, { w with grids := w.grids ++ [{}] }, fillGrid_run rfl ?_, ?_, rfl,
        by simp⟩
      · rw [fresh]
        exact ran
      · intro given none_given
        cases none_given
  have placed : destination < v.graphs.length := same ▸ held
  refine ⟨_, id, onward, given, ?_, grid_setGrid there build.grid, fun other elsewhere => ?_⟩
  · exact (graph_setGraph v destination destination build.graph).trans (if_pos ⟨rfl, placed⟩)
  · rw [← graph_congr same other]
    exact (graph_setGraph v destination other build.graph).trans
      (if_neg fun both => elsewhere both.1.symm)

/-- Nothing has changed, but for a new grid where none was given. -/
structure Untouched (w : Workspace) (grid : Option GridId) (after : Workspace) : Prop where
  graphs_eq : after.graphs = w.graphs
  maps_eq : after.maps = w.maps
  grids_prefix : w.grids <+: after.grids
  same : ∀ id, grid = some id → after = w

/-- A product that is not asked for as it has to be, or lacks its root, leaves its build alone. -/
theorem request_refused {factor cofactor : Operand}
    (unmet : Product.ofRequest kind root = .error failure ∨
      ∃ product, Product.ofRequest kind root = .ok product ∧
        product.requireRoot (cofactor.view build.graph) = .error failure) :
    Product.request kind root factor cofactor build = .error failure build := by
  rcases unmet with unfit | ⟨product, asked, rootless⟩
  · exact bind_of_error (query_of_error unfit)
  · exact (bind_of_ok (ofExcept_of_ok asked build)).trans
      (bind_of_error (query_of_error rootless))

/-- A product that is not asked for as it has to be, or lacks its root, leaves everything alone. -/
theorem product_refused
    (unmet : Product.ofRequest kind root = .error failure ∨
      ∃ product, Product.ofRequest kind root = .ok product ∧
        product.requireRoot (w.graph second) = .error failure) :
    ∃ after, run (.product kind root first second destination grid) w = .error failure after ∧
      w.Untouched grid after := by
  have stopped : ∀ (v : Workspace) (id : GridId), v.graphs = w.graphs →
      fillGrid kind root first second destination id v = .error failure v := by
    intro v id same
    have refused : Product.request kind root (v.operand destination first)
        (v.operand destination second)
        { graph := v.graph destination, grid := v.grid id, memory := () } =
          .error failure { graph := v.graph destination, grid := v.grid id, memory := () } := by
      apply request_refused
      rw [view_operand, graph_congr same]
      exact unmet
    have broken := onBuild_failed refused
    rw [setGraph_graph, setGrid_grid] at broken
    exact (get_bind_run _ v).trans (bind_of_error broken)
  cases grid with
  | some id => exact ⟨w, stopped w id rfl, rfl, rfl, List.prefix_rfl, fun _ _ => rfl⟩
  | none =>
    refine ⟨{ w with grids := w.grids ++ [{}] }, stopped _ w.grids.length rfl, rfl, rfl,
      List.prefix_append _ _, fun _ given => ?_⟩
    cases given

end Multigraph.Workspace
