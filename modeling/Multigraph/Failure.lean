import Multigraph.Product.Kind

/-!
Why an action on graphs, correspondences or grids may be refused. A failure is a cause with the
handles and values it concerns; its wording is in `Failure.message` and its class in
`Failure.category`. The class says which kind of object was misused, and callers sort failures
by it.
-/
namespace Multigraph

inductive Failure where
  /-- The handle is no node of the graph. -/
  | missingNode (node : Int)
  /-- The handle is no edge of the graph. -/
  | missingEdge (edge : Int)
  /-- The edge is there, but the node is neither of its ends. -/
  | notAnEndpoint (node edge : Int)
  /-- A rooted product was given a root that the second factor does not have. -/
  | missingRoot (root : Int)
  /-- A frozen snapshot of a graph was to be changed. -/
  | frozen
  /-- A correspondence was read or written before it was bound to a graph. -/
  | unbound
  /-- A union was given a correspondence that is not bound to its second graph. -/
  | unionMapElsewhere
  /-- A join was given a correspondence that is not bound to its second graph. -/
  | joinMapElsewhere
  /-- An intersection was given a correspondence that is not bound to its first graph. -/
  | intersectionMapElsewhere
  /-- A node of the second graph is identified with something outside the first graph. -/
  | identifiedOutside (node : Int) (value : Value)
  /-- A node of the first graph corresponds to something outside the second graph. -/
  | correspondsOutside (node : Int) (value : Value)
  /-- No product has this name; it is kept in its quoted spelling. -/
  | unknownKind (spelling : String)
  /-- A rooted product was asked for without a root. -/
  | rootRequired
  /-- A root was given to a product that takes none. -/
  | rootRefused (kind : ProductKind)
  /-- The node is no key of the correspondence or the grid. -/
  | missingKey (node : Int)
  /-- The pair is no key of the grid. -/
  | missingPair (first second : Int)
  /-- A key was to be taken from a correspondence that has none. -/
  | noKey
  deriving DecidableEq

/-- The classes of failures. -/
inductive Failure.Category where
  | graph
  | snapshot
  | correspondence
  | configuration
  | key
  deriving DecidableEq

namespace Failure

/-- The class of a failure. -/
def category : Failure → Category
  | missingNode _ | missingEdge _ | notAnEndpoint _ _ | missingRoot _ => .graph
  | frozen => .snapshot
  | unbound | unionMapElsewhere | joinMapElsewhere | intersectionMapElsewhere
  | identifiedOutside _ _ | correspondsOutside _ _ => .correspondence
  | unknownKind _ | rootRequired | rootRefused _ => .configuration
  | missingKey _ | missingPair _ _ | noKey => .key

/-- The wording of a failure. A failed key is its own message: a node, a pair, or nothing. -/
def message : Failure → String
  | missingNode node => "Node " ++ decimal node ++ " is not in the graph"
  | missingEdge edge => "Edge " ++ decimal edge ++ " is not in the graph"
  | notAnEndpoint node edge =>
    "Node " ++ decimal node ++ " is not an endpoint of edge " ++ decimal edge
  | missingRoot root => "Root " ++ decimal root ++ " is not a node of the second graph"
  | frozen => "Frozen graph can't be modified"
  | unbound => "NodeMap is not bound to a graph"
  | unionMapElsewhere => "map2to1 must be bound to the second graph"
  | joinMapElsewhere => "mapping must be bound to the second graph"
  | intersectionMapElsewhere => "node_map must be bound to the first graph"
  | identifiedOutside node value =>
    "Node " ++ decimal node ++ " is identified with " ++ value.bare ++
      ", which is not in the first graph"
  | correspondsOutside node value =>
    "Node " ++ decimal node ++ " maps to " ++ value.bare ++
      ", which is not in the second graph"
  | unknownKind spelling => "Unknown product kind: " ++ spelling
  | rootRequired => "Rooted product requires a root node of the second graph"
  | rootRefused kind => kind.name ++ " product does not take a root"
  | missingKey node => decimal node
  | missingPair first second => "(" ++ decimal first ++ ", " ++ decimal second ++ ")"
  | noKey => ""

end Failure

end Multigraph
