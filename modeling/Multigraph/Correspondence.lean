import Multigraph.Graph.Basic

/-!
Correspondences. A correspondence gives values to the nodes of the graph it is bound to: every
node is a key from the moment it exists, and reads as unset until a value is written. A handle
that is no node of the graph is no key. The values are kept in a table that is only ever read
through the graph, so a value written for a node that has since been deleted is out of sight;
handles are never given out twice, and so it stays out of sight.
-/
namespace Multigraph

/-- The values written for the nodes of a graph. -/
abbrev Assignment := Table NodeId Value

namespace Assignment

/-- Whether a handle is a key. -/
def requireKey (g : Graph) (node : NodeId) : Except Failure Unit :=
  if node ∈ g.nodes then .ok () else .error (.missingKey node)

/-- The value of a key, if it is set. -/
def read (values : Assignment) (g : Graph) (node : NodeId) : Except Failure (Option Value) := do
  requireKey g node
  return values.get? node

/-- Every key with its value, in the order of the nodes. -/
def items (values : Assignment) (g : Graph) : List (NodeId × Option Value) :=
  g.nodes.map fun node => (node, values.get? node)

/-- The keys that are not set, in the order of the nodes. -/
def unsetNodes (values : Assignment) (g : Graph) : List NodeId :=
  g.nodes.filter fun node => (values.get? node).isNone

/-- The value of a key, or a default for any other handle. -/
def readOr (values : Assignment) (g : Graph) (node : NodeId) (default : Option Value) :
    Option Value :=
  if node ∈ g.nodes then values.get? node else default

/-- Whether two correspondences have the same keys with the same values. -/
def sameItems (values : Assignment) (g : Graph) (others : Assignment) (h : Graph) : Bool :=
  (Table.ofList (values.items g)).sameEntries (Table.ofList (others.items h))

/-- A listing of the keys and values. -/
def describe (values : Assignment) (g : Graph) : String :=
  let entry := fun (node, value) => decimal node ++ ": " ++ quotedEntry value
  "NodeMap(\x7b" ++ ", ".intercalate ((values.items g).map entry) ++ "\x7d)"

/-! ## Writing -/

/-- Sets the value of a key, or unsets it. -/
def write (g : Graph) (node : NodeId) (value : Option Value) : Action Assignment Unit := do
  Action.ofExcept (requireKey g node)
  match value with
  | some v => modify (·.insert node v)
  | none => modify (·.erase node)

/-- Unsets a key and answers the value it had. -/
def takeKey (g : Graph) (node : NodeId) : Action Assignment (Option Value) := do
  let value ← Action.query (read · g node)
  write g node none
  return value

/-- Unsets a key and answers the value it had. For another handle the default is answered, if
there is one. -/
def take (g : Graph) (node : NodeId) (default : Option (Option Value)) :
    Action Assignment (Option Value) :=
  match default with
  | some value => if node ∈ g.nodes then takeKey g node else pure value
  | none => takeKey g node

/-- Unsets the first key and answers it with the value it had; the key itself stays. -/
def takeFirst (g : Graph) : Action Assignment (NodeId × Option Value) := do
  match g.nodes with
  | [] => throw .noKey
  | node :: _ => return (node, ← takeKey g node)

/-- Answers the value of a key, set or not; any other handle is refused, for it cannot be given
the default. -/
def readOrWrite (g : Graph) (node : NodeId) (default : Option Value) :
    Action Assignment (Option Value) := do
  if node ∈ g.nodes then Action.query (read · g node)
  else
    write g node default
    return default

/-! ## Identifications -/

/-- The entry that a node adds to the identifications. -/
def identify (values : Assignment) (codomain : Graph) (refuse : NodeId → Value → Failure)
    (found : Table NodeId NodeId) (node : NodeId) : Except Failure (Table NodeId NodeId) :=
  match values.get? node with
  | none => .ok found
  | some (.int image) =>
    if image ∈ codomain.nodes then .ok (found.insert node image)
    else .error (refuse node (.int image))
  | some (.text s) => .error (refuse node (.text s))

/-- The set keys with their values, all of which have to be nodes of a second graph. The first
value that is not is refused. -/
def resolve (values : Assignment) (domain codomain : Graph) (refuse : NodeId → Value → Failure) :
    Except Failure (Table NodeId NodeId) :=
  domain.nodes.foldlM (identify values codomain refuse) ∅

/-- Writes the images of nodes as their values. The keys are nodes of the graph, so there is nothing
to refuse: this is what writing them one after the other leaves (`recordImages_eq_writeAll`). -/
def recordImages (values : Assignment) (images : Table NodeId NodeId) : Assignment :=
  images.entries.foldl (fun values entry => values.insert entry.1 (.int entry.2)) values

end Assignment

end Multigraph
