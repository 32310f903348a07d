import Multigraph.Correspondence
import Multigraph.Product.Build

/-!
Workspaces. A workspace holds graphs, correspondences and grids that may be shared: a
correspondence refers to the graph it is bound to, so it follows every later change of that graph,
and two operations that are given the same object see each other's changes. Objects are never
removed, and each is known by its place.
-/
namespace Multigraph

abbrev GraphId := Nat

abbrev MapId := Nat

abbrev GridId := Nat

/-- A correspondence with the graph it is bound to, if any. -/
structure Correspondence where
  graph? : Option GraphId := none
  values : Assignment := ∅
  deriving Inhabited

/-- The objects that operations work on. -/
structure Workspace where
  graphs : List Graph := []
  maps : List Correspondence := []
  grids : List Grid := []
  deriving Inhabited

namespace Workspace

/-! ## Reading -/

/-- A graph of the workspace. -/
def graph (w : Workspace) (id : GraphId) : Graph := w.graphs.getD id {}

/-- A correspondence of the workspace. -/
def map (w : Workspace) (id : MapId) : Correspondence := w.maps.getD id {}

/-- A grid of the workspace. -/
def grid (w : Workspace) (id : GridId) : Grid := w.grids.getD id {}

/-- Whether a correspondence is bound to a graph, by identity and not by content. -/
def isBoundTo (w : Workspace) (m : MapId) (g : GraphId) : Bool := (w.map m).graph? = some g

/-- The graph that a correspondence is bound to. -/
def boundGraph (w : Workspace) (m : MapId) : Except Failure Graph :=
  match (w.map m).graph? with
  | some g => .ok (w.graph g)
  | none => .error .unbound

/-- A view of a correspondence through its graph. -/
def viewMap {α : Type} (w : Workspace) (m : MapId) (view : Assignment → Graph → α) :
    Except Failure α := do
  return view (w.map m).values (← w.boundGraph m)

/-- The keys of a correspondence with their values. -/
def items (w : Workspace) (m : MapId) : Except Failure (List (NodeId × Option Value)) :=
  w.viewMap m Assignment.items

/-- The value of a key of a correspondence. -/
def readKey (w : Workspace) (m : MapId) (node : NodeId) : Except Failure (Option Value) := do
  (w.map m).values.read (← w.boundGraph m) node

/-- Whether two correspondences have the same items. -/
def sameItems (w : Workspace) (m other : MapId) : Except Failure Bool := do
  let g ← w.boundGraph m
  let h ← w.boundGraph other
  return (w.map m).values.sameItems g (w.map other).values h

/-- A graph as the operand of an operation that changes a graph, perhaps the same one. -/
def operand (w : Workspace) (changed id : GraphId) : Operand :=
  if id = changed then .same else .other (w.graph id)

/-! ## Writing -/

/-- Puts a graph in the place of another. -/
def setGraph (w : Workspace) (id : GraphId) (g : Graph) : Workspace :=
  { w with graphs := w.graphs.set id g }

/-- Puts a correspondence in the place of another. -/
def setMap (w : Workspace) (id : MapId) (m : Correspondence) : Workspace :=
  { w with maps := w.maps.set id m }

/-- Puts a grid in the place of another. -/
def setGrid (w : Workspace) (id : GridId) (grid : Grid) : Workspace :=
  { w with grids := w.grids.set id grid }

/-- Adds a graph. -/
def addGraph (g : Graph) : Action Workspace GraphId :=
  modifyGet fun w => (w.graphs.length, { w with graphs := w.graphs ++ [g] })

/-- Adds a correspondence. -/
def addMap (m : Correspondence) : Action Workspace MapId :=
  modifyGet fun w => (w.maps.length, { w with maps := w.maps ++ [m] })

/-- Adds a grid. -/
def addGrid (grid : Grid) : Action Workspace GridId :=
  modifyGet fun w => (w.grids.length, { w with grids := w.grids ++ [grid] })

/-- Runs an action on one graph. -/
def onGraph {α : Type} (id : GraphId) (action : Action Graph α) : Action Workspace α :=
  Action.within (graph · id) (fun g w => w.setGraph id g) action

/-- Runs an action on the values of one correspondence, which has to be bound; the action is told
the graph. -/
def onMap {α : Type} (id : MapId) (action : Graph → Action Assignment α) :
    Action Workspace α := do
  let g ← Action.query (boundGraph · id)
  Action.within (fun w => (w.map id).values)
    (fun values w => w.setMap id { w.map id with values := values }) (action g)

/-- Runs a build with one graph as its destination and one grid, under an edge rule that has a
memory. -/
def onBuild {α μ : Type} (destination : GraphId) (grid : GridId) (memory : μ)
    (action : Action (Build μ) α) : Action Workspace α :=
  Action.within
    (fun w => { graph := w.graph destination, grid := w.grid grid, memory := memory })
    (fun build w => (w.setGraph destination build.graph).setGrid grid build.grid) action

/-- Refuses a correspondence that is not bound to a given graph. -/
def requireBinding (m : MapId) (g : GraphId) (failure : Failure) : Action Workspace Unit := do
  if (← get).isBoundTo m g then pure () else throw failure

/-- Writes the images of nodes into a correspondence. -/
def recordImages (id : MapId) (images : Table NodeId NodeId) : Action Workspace Unit :=
  modify fun w =>
    w.setMap id { w.map id with values := (w.map id).values.recordImages images }

end Workspace

end Multigraph
