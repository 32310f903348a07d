import Mathlib.Data.List.GetD
import Multigraph.Proofs.Product.Ledger
import Multigraph.Proofs.Workspace.Merge

/-!
Ledgers beside a run of commands. For each grid a ledger is kept, which is told by every command
what it assigns and whether it clears the grid (`book`); it never looks at the grid. Whatever the
commands, failed ones and products into a factor included, each grid is what its ledger makes of an
empty one (`grids_booked`), and so its two tables stay in step (`grids_tell_ledgers`).
-/
namespace Multigraph

open Multigraph.Action

namespace Build

/-! ## What a build assigns -/

/-- The pairs that a build places when the destination has been emptied. -/
def pairsFor (first second : Operand) (destination : Graph) : List (NodeId × NodeId) :=
  pairsOf (first.view destination.cleared).nodes (second.view destination.cleared).nodes

/-- What a build assigns: consecutive handles to the pairs. -/
def ledgerFor (first second : Operand) (destination : Graph) : Ledger :=
  (pairsFor first second destination).zip
    (handlesFrom destination.nextNode (pairsFor first second destination).length)

variable {μ : Type}

theorem visitPair_keeps (call : EdgeCall μ) (pair : NodeId × NodeId) :
    Keeps (Same Build.grid) (visitPair call pair) := by
  have anything : ∀ g : Grid, Keeps (fun _ _ => True) (call g pair.1 pair.2) :=
    fun _ _ => trivial
  exact keeps_bind keeps_get fun build => keeps_within (anything build.grid) fun _ _ _ => rfl

/-- Whatever its rule does, a build leaves the grid that its assignments make. -/
theorem grid_after_run (first second : Operand) (call : Graph → Graph → EdgeCall μ)
    (build : Build μ) :
    ((run first second call).after build).grid = filled {} (ledgerFor first second build.graph) := by
  have visits : Keeps (Same Build.grid) (do
      (pairsFor first second build.graph).forM (visitPair
        (call (first.view build.graph.cleared) (second.view build.graph.cleared)))
      let product := (← get).graph
      return .product product.nodeCount product.edgeCount : Action (Build μ) Event) :=
    keeps_bind (keeps_forM fun pair _ => visitPair_keeps _ pair) fun _ =>
      keeps_bind keeps_get fun _ => keeps_pure _
  have placed := placed_run build (pairsFor first second build.graph)
  have onward : run first second call build = _ :=
    (modify_bind_run _ _ build).trans ((get_bind_run _ _).trans (bind_of_ok placed))
  rw [after_congr onward]
  exact visits (build.placed (pairsFor first second build.graph))

end Build

namespace Product

/-- Whether a product is asked for as it has to be, with the root it needs. -/
def isFit (kind : Datum) (root : Option NodeId) (second : Graph) : Bool :=
  (do (← ofRequest kind root).requireRoot second : Except Failure Unit).isOk

theorem isFit_of_error {kind : Datum} {root : Option NodeId} {second : Graph} {failure : Failure}
    (unmet : ofRequest kind root = .error failure ∨
      ∃ product, ofRequest kind root = .ok product ∧
        product.requireRoot second = .error failure) : isFit kind root second = false := by
  rcases unmet with unfit | ⟨product, asked, rootless⟩
  · rw [isFit, unfit]
    rfl
  · rw [isFit, asked]
    exact congrArg Except.isOk rootless

/-- A request that is met assigns what its build does, and one that is refused leaves the grid as it
is. -/
theorem grid_after_request (kind : Datum) (root : Option NodeId) (first second : Operand)
    (build : Build Unit) : ((request kind root first second).after build).grid =
      if isFit kind root (second.view build.graph) then
        Build.filled {} (Build.ledgerFor first second build.graph)
      else build.grid := by
  have refused : ∀ failure, (ofRequest kind root = .error failure ∨
      ∃ product, ofRequest kind root = .ok product ∧
        product.requireRoot (second.view build.graph) = .error failure) →
      ((request kind root first second).after build).grid =
        if isFit kind root (second.view build.graph) then
          Build.filled {} (Build.ledgerFor first second build.graph)
        else build.grid := by
    intro failure unmet
    rw [after_of_error (Workspace.request_refused unmet), isFit_of_error unmet]
    rfl
  cases asked : ofRequest kind root with
  | error failure => exact refused failure (.inl asked)
  | ok product =>
    cases rooted : product.requireRoot (second.view build.graph) with
    | error failure => exact refused failure (.inr ⟨product, asked, rooted⟩)
    | ok _ =>
      have fit : isFit kind root (second.view build.graph) = true := by
        rw [isFit, asked]
        exact congrArg Except.isOk rooted
      have onward : request kind root first second build =
          Build.run first second (fun v w => (product.drawing v w).call) build :=
        (bind_of_ok (ofExcept_of_ok asked build)).trans (bind_of_ok (query_of_ok rooted))
      rw [after_congr onward, Build.grid_after_run, fit]
      rfl

end Product

/-- A command that is not about grids. -/
def Command.SparesGrids : Command → Prop
  | .product .. | .buildGrid .. | .newGrid | .assign .. | .clearGrid _ => False
  | _ => True

namespace Workspace

/-! ## Commands that assign nothing -/

theorem onGraph_sameGrids {α : Type} (id : GraphId) (action : Action Graph α) :
    Keeps (Same grids) (onGraph id action) := by
  have anything : Keeps (fun _ _ => True) action := fun _ => trivial
  exact keeps_within anything fun _ _ _ => rfl

theorem onMap_sameGrids {α : Type} (m : MapId) (action : Graph → Action Assignment α) :
    Keeps (Same grids) (onMap m action) := by
  have anything : ∀ g, Keeps (fun _ _ => True) (action g) := fun _ _ => trivial
  exact keeps_bind (keeps_query _) fun g => keeps_within (anything g) fun _ _ _ => rfl

theorem requireBinding_sameGrids (m : MapId) (g : GraphId) (failure : Failure) :
    Keeps (Same grids) (requireBinding m g failure) :=
  keeps_bind keeps_get fun _ => keeps_ite (keeps_pure ()) (keeps_throw failure)

theorem addMap_sameGrids (m : Correspondence) : Keeps (Same grids) (addMap m) := fun _ => rfl

theorem recordImages_sameGrids (m : MapId) (images : Table NodeId NodeId) :
    Keeps (Same grids) (recordImages m images) := keeps_modify fun _ => rfl

theorem writeAll_sameGrids (m : MapId) (entries : List (NodeId × Option Value)) :
    Keeps (Same grids) (writeAll m entries) := keeps_forM fun _ _ => onMap_sameGrids m _

/-- A command that is not about grids changes none, even if it fails. -/
theorem run_sameGrids {command : Command} (spares : command.SparesGrids) :
    Keeps (Same grids) (run command) := by
  cases command with
  | newGraph => exact fun _ => rfl
  | copy g => exact fun _ => rfl
  | newNode g => exact keeps_bind (onGraph_sameGrids g _) fun _ => keeps_pure _
  | newEdge g source target => exact keeps_bind (onGraph_sameGrids g _) fun _ => keeps_pure _
  | deleteNode g node => exact keeps_bind (onGraph_sameGrids g _) fun _ => keeps_pure _
  | deleteEdge g edge => exact keeps_bind (onGraph_sameGrids g _) fun _ => keeps_pure _
  | clear g => exact keeps_bind (onGraph_sameGrids g _) fun _ => keeps_pure _
  | insert g other =>
    exact keeps_bind keeps_get fun _ => keeps_bind (onGraph_sameGrids g _) fun _ => keeps_pure _
  | removeParallel g directed => exact keeps_bind (onGraph_sameGrids g _) fun _ => keeps_pure _
  | complement g policy => exact keeps_bind (onGraph_sameGrids g _) fun _ => keeps_pure _
  | disjointUnion first second =>
    exact keeps_bind keeps_get fun _ => keeps_bind (onGraph_sameGrids first _) fun images =>
      keeps_bind (addMap_sameGrids _) fun m =>
        keeps_bind (recordImages_sameGrids m images) fun _ => keeps_pure _
  | union first second map policy =>
    refine keeps_bind ?_ fun m => keeps_bind keeps_get fun _ =>
      keeps_bind (onGraph_sameGrids first _) fun (images, _) =>
        keeps_bind (recordImages_sameGrids m images) fun _ => keeps_pure _
    cases map with
    | some m => exact keeps_bind (requireBinding_sameGrids m second _) fun _ => keeps_pure m
    | none => exact addMap_sameGrids _
  | join first second m =>
    exact keeps_bind (requireBinding_sameGrids m second _) fun _ => keeps_bind keeps_get fun _ =>
      keeps_bind (onGraph_sameGrids first _) fun (images, _) =>
        keeps_bind (recordImages_sameGrids m images) fun _ => keeps_pure _
  | intersection first second m =>
    exact keeps_bind (requireBinding_sameGrids m first _) fun _ => keeps_bind keeps_get fun _ =>
      keeps_bind (onGraph_sameGrids first _) fun _ => keeps_pure _
  | newMap g => exact keeps_bind (addMap_sameGrids _) fun _ => keeps_pure _
  | bind m g => exact keeps_bind (keeps_modify fun _ => rfl) fun _ => keeps_pure _
  | write m node value => exact keeps_bind (onMap_sameGrids m _) fun _ => keeps_pure _
  | writeAll m entries => exact keeps_bind (writeAll_sameGrids m entries) fun _ => keeps_pure _
  | writeFrom m other =>
    exact keeps_bind (keeps_query _) fun entries =>
      keeps_bind (writeAll_sameGrids m entries) fun _ => keeps_pure _
  | take m node default => exact keeps_bind (onMap_sameGrids m _) fun _ => keeps_pure _
  | takeFirst m => exact keeps_bind (onMap_sameGrids m _) fun (_, _) => keeps_pure _
  | readOrWrite m node default => exact keeps_bind (onMap_sameGrids m _) fun _ => keeps_pure _
  | _ => exact spares.elim

theorem step_sameGrids (w : Workspace) {command : Command} (spares : command.SparesGrids) :
    (w.step command).grids = w.grids := run_sameGrids spares w

/-! ## Ledgers beside a run -/

/-- What a product of two graphs assigns: consecutive handles from the counter of its destination to
the pairs of their nodes, row by row. A factor that is the destination has no nodes any more. -/
def productLedger (w : Workspace) (first second destination : GraphId) : Ledger :=
  let factor := fun id => if id = destination then [] else (w.graph id).nodes
  let pairs := Build.pairsOf (factor first) (factor second)
  pairs.zip (handlesFrom (w.graph destination).nextNode pairs.length)

/-- What a command does to the ledgers of the grids. -/
def book (w : Workspace) (ledgers : List Ledger) : Command → List Ledger
  | .newGrid => ledgers ++ [[]]
  | .assign grid first second node =>
    ledgers.set grid (ledgers.getD grid [] ++ [((first, second), node)])
  | .clearGrid grid => ledgers.set grid []
  | .product kind root first second destination grid =>
    let opened := if grid.isNone then ledgers ++ [[]] else ledgers
    if Product.isFit kind root (w.graph second) then
      opened.set (grid.getD ledgers.length) (w.productLedger first second destination)
    else opened
  | .buildGrid _ first second destination grid =>
    ledgers.set grid (w.productLedger first second destination)
  | _ => ledgers

/-- What becomes of the ledgers under a list of commands. -/
def bookAll (w : Workspace) (ledgers : List Ledger) : List Command → List Ledger
  | [] => ledgers
  | command :: rest => bookAll (w.step command) (w.book ledgers command) rest

variable {w : Workspace} {ledgers : List Ledger}

theorem view_operand_cleared (w : Workspace) (destination id : GraphId) :
    ((w.operand destination id).view (w.graph destination).cleared).nodes =
      if id = destination then [] else (w.graph id).nodes := by
  by_cases same : id = destination
  · rw [operand, if_pos same, if_pos same]
    rfl
  · rw [operand, if_neg same, if_neg same]
    rfl

theorem ledgerFor_operands (w : Workspace) (first second destination : GraphId) :
    Build.ledgerFor (w.operand destination first) (w.operand destination second)
      (w.graph destination) = w.productLedger first second destination := by
  simp only [Build.ledgerFor, Build.pairsFor, view_operand_cleared, productLedger]

theorem grids_after_onBuild {α μ : Type} (w : Workspace) (destination : GraphId) (id : GridId)
    (memory : μ) (action : Action (Build μ) α) :
    ((onBuild destination id memory action).after w).grids = w.grids.set id
      (action.after { graph := w.graph destination, grid := w.grid id, memory := memory }).grid :=
  congrArg grids (within_after action w)

theorem grids_after_buildGrid (w : Workspace) (rule : EdgeRule)
    (first second destination : GraphId) (id : GridId) :
    (w.step (.buildGrid rule first second destination id)).grids =
      w.grids.set id (Build.filled {} (w.productLedger first second destination)) := by
  have silent : ∀ event : Event, Keeps (Same Build.grid) (do
      return (event, (← get).memory.2) :
        Action (Build (rule.Memory × List (NodeId × NodeId))) _) :=
    fun _ => keeps_bind keeps_get fun _ => keeps_pure _
  have reply : ∀ answer : Event × List (NodeId × NodeId), Keeps (Same grids)
      (pure { answer := .visited answer.2, event := answer.1 } : Action Workspace Reply) :=
    fun _ => keeps_pure _
  have onward : (w.step (.buildGrid rule first second destination id)).grids =
      ((onBuild destination id (rule.memory, []) do
        let event ← Build.run (w.operand destination first) (w.operand destination second)
          fun _ _ => rule.call.recorded
        return (event, (← get).memory.2)).after w).grids := same_after_bind grids reply w
  rw [onward, grids_after_onBuild, same_after_bind Build.grid silent, Build.grid_after_run,
    ledgerFor_operands]

theorem grids_after_fillGrid (w : Workspace) (kind : Datum) (root : Option NodeId)
    (first second destination : GraphId) (id : GridId) :
    ((fillGrid kind root first second destination id).after w).grids =
      if Product.isFit kind root (w.graph second) then
        w.grids.set id (Build.filled {} (w.productLedger first second destination))
      else w.grids := by
  have reply : ∀ event : Event, Keeps (Same grids)
      (pure { answer := .grid id, event := event } : Action Workspace Reply) :=
    fun _ => keeps_pure _
  have onward : fillGrid kind root first second destination id w = _ := get_bind_run _ _
  rw [after_congr onward, same_after_bind grids reply, grids_after_onBuild,
    Product.grid_after_request, view_operand, ledgerFor_operands]
  split
  · rfl
  · exact congrArg grids (setGrid_grid w id)

theorem grid_booked (booked : w.grids = ledgers.map (Build.filled {})) (id : GridId) :
    w.grid id = Build.filled {} (ledgers.getD id []) := by
  rw [Workspace.grid, booked]
  exact List.getD_map ledgers [] (Build.filled {})

/-- A command does to the grids what it does to their ledgers. -/
theorem step_booked (booked : w.grids = ledgers.map (Build.filled {})) (command : Command) :
    (w.step command).grids = (w.book ledgers command).map (Build.filled {}) := by
  have length : w.grids.length = ledgers.length := by rw [booked, List.length_map]
  cases command with
  | newGrid =>
    rw [book, List.map_append, ← booked]
    rfl
  | assign grid first second node =>
    have assigned : Build.filled {} (ledgers.getD grid [] ++ [((first, second), node)]) =
        (w.grid grid).assign first second node := by
      rw [grid_booked booked]
      exact List.foldl_append
    rw [book, List.map_set, assigned, ← booked]
    rfl
  | clearGrid grid =>
    rw [book, List.map_set, ← booked]
    rfl
  | product kind root first second destination grid =>
    cases grid with
    | some id =>
      have filled : (w.step (.product kind root first second destination (some id))).grids = _ :=
        grids_after_fillGrid w kind root first second destination id
      rw [filled, book]
      split
      · rw [if_neg (by simp), Option.getD_some, List.map_set, ← booked]
      · exact booked
    | none =>
      have filled : (w.step (.product kind root first second destination none)).grids =
          if Product.isFit kind root (w.graph second) then
            (w.grids ++ [({} : Grid)]).set w.grids.length
              (Build.filled {} (w.productLedger first second destination))
          else w.grids ++ [({} : Grid)] :=
        grids_after_fillGrid { w with grids := w.grids ++ [{}] } kind root first second destination
          w.grids.length
      have opened : w.grids ++ [({} : Grid)] = (ledgers ++ [[]]).map (Build.filled {}) := by
        rw [List.map_append, ← booked]
        rfl
      rw [filled, book]
      split
      · rw [if_pos (by simp), Option.getD_none, List.map_set, ← opened, length]
      · exact opened
  | buildGrid rule first second destination grid =>
    rw [book, List.map_set, ← booked]
    exact grids_after_buildGrid w rule first second destination grid
  | _ => exact (step_sameGrids w (by trivial)).trans booked

/-- After a run of commands every grid is what its ledger makes of an empty one. -/
theorem grids_booked (booked : w.grids = ledgers.map (Build.filled {})) (commands : List Command) :
    (w.runAll commands).grids = (w.bookAll ledgers commands).map (Build.filled {}) := by
  induction commands generalizing w ledgers with
  | nil => exact booked
  | cons command rest ih => exact ih (step_booked booked command)

/-- After every run of commands a grid is told by its ledger, which has been kept beside the run:
its items are the assigned pairs in the order of their first assignments, each with the node last
assigned; its rows list its items in the same order, and a node without an item has no row; a pair
is found as its row says; and the rows have all the pairs between them. The commands may be
assignments of any nodes to any pairs, may fail, and may be products, also into their factors. -/
theorem grids_tell_ledgers (commands : List Command) (id : GridId) :
    Grid.Tells ((bookAll {} [] commands).getD id []) ((runAll {} commands).grid id) := by
  have start : ({} : Workspace).grids = [].map (Build.filled {}) := rfl
  rw [grid_booked (grids_booked start commands) id]
  exact Grid.filled_tells _

end Workspace

end Multigraph
