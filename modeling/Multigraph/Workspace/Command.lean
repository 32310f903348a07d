import Multigraph.Operation.Complement
import Multigraph.Operation.Intersection
import Multigraph.Operation.Join
import Multigraph.Operation.Union
import Multigraph.Product.Basic
import Multigraph.Workspace.Basic

/-!
Commands. A command is one step on a workspace, with the objects it concerns given by their
places; any of them may be given more than once. Running a command answers a reply and leaves a
workspace, and a command that fails leaves the workspace as far as it got. A run is a list of
commands, each taken up where the one before it ended, failed or not.
-/
namespace Multigraph

inductive Command where
  /-- Adds an empty graph. -/
  | newGraph
  /-- Adds a copy of a graph, with the same handles and counters. -/
  | copy (g : GraphId)
  | newNode (g : GraphId)
  | newEdge (g : GraphId) (source target : NodeId)
  | deleteNode (g : GraphId) (node : NodeId)
  | deleteEdge (g : GraphId) (edge : EdgeId)
  | clear (g : GraphId)
  | insert (g other : GraphId)
  | removeParallel (g : GraphId) (directed : Bool)
  | complement (g : GraphId) (policy : ComplementPolicy)
  | disjointUnion (first second : GraphId)
  /-- Unites two graphs, under the identifications of a correspondence if one is given. -/
  | union (first second : GraphId) (map : Option MapId) (policy : UnionPolicy)
  | join (first second : GraphId) (map : MapId)
  | intersection (first second : GraphId) (map : MapId)
  /-- Builds the product that a kind and perhaps a root ask for. -/
  | product (kind : Datum) (root : Option NodeId) (first second destination : GraphId)
      (grid : Option GridId)
  /-- Builds a grid under an edge rule of the caller's own, and answers the pairs for which it has
  been called. -/
  | buildGrid (rule : EdgeRule) (first second destination : GraphId) (grid : GridId)
  /-- Adds a correspondence, bound to a graph or not. -/
  | newMap (g : Option GraphId)
  /-- Binds a correspondence to a graph and unsets all its values. -/
  | bind (m : MapId) (g : GraphId)
  | write (m : MapId) (node : NodeId) (value : Option Value)
  /-- Writes several entries in order, up to the first that is refused. -/
  | writeAll (m : MapId) (entries : List (NodeId × Option Value))
  /-- Writes the items of another correspondence, up to the first that is refused. -/
  | writeFrom (m other : MapId)
  | take (m : MapId) (node : NodeId) (default : Option (Option Value))
  | takeFirst (m : MapId)
  | readOrWrite (m : MapId) (node : NodeId) (default : Option Value)
  | newGrid
  | assign (grid : GridId) (first second node : NodeId)
  | clearGrid (grid : GridId)

/-- What a command answers. -/
inductive Answer where
  | done
  | graph (id : GraphId)
  | map (id : MapId)
  | grid (id : GridId)
  | node (id : NodeId)
  | edge (id : EdgeId)
  | count (n : Nat)
  | value (v : Option Value)
  | entry (node : NodeId) (value : Option Value)
  | renaming (r : Graph.Renaming)
  | visited (pairs : List (NodeId × NodeId))

/-- The answer of a command, with the event it reports. -/
structure Reply where
  answer : Answer
  event : Option Event := none

namespace Workspace

/-- The correspondence that a union fills: the given one, which has to be bound to the second
graph, or a new one. -/
def unionMap (second : GraphId) : Option MapId → Action Workspace MapId
  | some m => do
    requireBinding m second .unionMapElsewhere
    return m
  | none => addMap { graph? := some second }

def disjointUnion (first second : GraphId) : Action Workspace Reply := do
  let images ← onGraph first (Graph.disjointUnion ((← get).graph second))
  let m ← addMap { graph? := some second }
  recordImages m images
  return { answer := .map m }

def union (first second : GraphId) (map : Option MapId) (policy : UnionPolicy) :
    Action Workspace Reply := do
  let m ← unionMap second map
  let w ← get
  let (images, event) ← onGraph first
    (Graph.union (w.graph second) (w.map m).values policy)
  recordImages m images
  return { answer := .map m, event := event }

def join (first second : GraphId) (m : MapId) : Action Workspace Reply := do
  requireBinding m second .joinMapElsewhere
  let w ← get
  let (images, event) ← onGraph first (Graph.join (w.operand first second) (w.map m).values)
  recordImages m images
  return { answer := .map m, event := event }

def intersection (first second : GraphId) (m : MapId) : Action Workspace Reply := do
  requireBinding m first .intersectionMapElsewhere
  let w ← get
  let event ← onGraph first (Graph.intersection (w.operand first second) (w.map m).values)
  return { answer := .done, event := event }

def product (kind : Datum) (root : Option NodeId) (first second destination : GraphId)
    (grid : Option GridId) : Action Workspace Reply := do
  let id ← match grid with
    | some id => pure id
    | none => addGrid {}
  let w ← get
  let event ← onBuild destination id ()
    (Product.request kind root (w.operand destination first) (w.operand destination second))
  return { answer := .grid id, event := event }

def buildGrid (rule : EdgeRule) (first second destination : GraphId) (grid : GridId) :
    Action Workspace Reply := do
  let w ← get
  let (event, visited) ← onBuild destination grid (rule.memory, []) do
    let event ← Build.run (w.operand destination first) (w.operand destination second)
      fun _ _ => rule.call.recorded
    return (event, (← get).memory.2)
  return { answer := .visited visited, event := event }

def write (m : MapId) (node : NodeId) (value : Option Value) : Action Workspace Unit :=
  onMap m (Assignment.write · node value)

def writeAll (m : MapId) (entries : List (NodeId × Option Value)) : Action Workspace Unit :=
  entries.forM fun (node, value) => write m node value

/-- Runs one command. -/
def run : Command → Action Workspace Reply
  | .newGraph => return { answer := .graph (← addGraph {}) }
  | .copy g => do return { answer := .graph (← addGraph ((← get).graph g)) }
  | .newNode g => return { answer := .node (← onGraph g Graph.newNode) }
  | .newEdge g source target =>
    return { answer := .edge (← onGraph g (Graph.newEdge source target)) }
  | .deleteNode g node => do
    onGraph g (Graph.deleteNode node)
    return { answer := .done }
  | .deleteEdge g edge => do
    onGraph g (Graph.deleteEdge edge)
    return { answer := .done }
  | .clear g => do
    onGraph g Graph.clear
    return { answer := .done }
  | .insert g other => do
    return { answer := .renaming (← onGraph g (Graph.insert ((← get).graph other))) }
  | .removeParallel g directed =>
    return { answer := .count (← onGraph g (Graph.removeParallel directed)) }
  | .complement g policy =>
    return { answer := .done, event := ← onGraph g (Graph.complement policy) }
  | .disjointUnion first second => disjointUnion first second
  | .union first second map policy => union first second map policy
  | .join first second m => join first second m
  | .intersection first second m => intersection first second m
  | .product kind root first second destination grid =>
    product kind root first second destination grid
  | .buildGrid rule first second destination grid =>
    buildGrid rule first second destination grid
  | .newMap g => return { answer := .map (← addMap { graph? := g }) }
  | .bind m g => do
    modify (·.setMap m { graph? := some g })
    return { answer := .done }
  | .write m node value => do
    write m node value
    return { answer := .done }
  | .writeAll m entries => do
    writeAll m entries
    return { answer := .done }
  | .writeFrom m other => do
    writeAll m (← Action.query (items · other))
    return { answer := .done }
  | .take m node default =>
    return { answer := .value (← onMap m (Assignment.take · node default)) }
  | .takeFirst m => do
    let (node, value) ← onMap m Assignment.takeFirst
    return { answer := .entry node value }
  | .readOrWrite m node default =>
    return { answer := .value (← onMap m (Assignment.readOrWrite · node default)) }
  | .newGrid => return { answer := .grid (← addGrid {}) }
  | .assign grid first second node => do
    modify fun w => w.setGrid grid ((w.grid grid).assign first second node)
    return { answer := .done }
  | .clearGrid grid => do
    modify (·.setGrid grid {})
    return { answer := .done }

/-- The workspace after a command, whether it succeeded or failed. -/
def step (w : Workspace) (command : Command) : Workspace := (run command).after w

/-- The workspace after a list of commands. -/
def runAll (w : Workspace) (commands : List Command) : Workspace := commands.foldl step w

end Workspace

end Multigraph
