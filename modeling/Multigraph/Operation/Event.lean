import Multigraph.Scalar

/-!
Completion events. Each operation on graphs ends by reporting what it did, in numbers.
-/
namespace Multigraph

/-- Which edges a union removes: parallel ones or none, and whether direction counts. -/
structure UnionPolicy where
  parallelFree : Bool := false
  directed : Bool := false
  deriving DecidableEq

/-- Which pairs of nodes a complement exchanges: ordered or unordered pairs, with or without the
pairs of a node with itself. -/
structure ComplementPolicy where
  directional : Bool := false
  allowSelfLoops : Bool := false
  deriving DecidableEq

/-- What an operation did. -/
inductive Event where
  | union (identified parallelRemoved nodes edges : Nat)
  | product (nodes edges : Nat)
  | complement (policy : ComplementPolicy) (removed created : Nat)
  | intersection (droppedNodes droppedEdges nodes edges : Nat)
  | join (identified parallelRemoved nodes edges : Nat)
  deriving DecidableEq

namespace Event

def name : Event → String
  | union .. => "union_complete"
  | product .. => "product_complete"
  | complement .. => "complement_complete"
  | intersection .. => "intersection_complete"
  | join .. => "join_complete"

/-- The fields of a log record about the event. -/
def fields : Event → List (String × Scalar)
  | union identified parallelRemoved nodes edges | join identified parallelRemoved nodes edges =>
    [("identified", .int identified), ("parallel_removed", .int parallelRemoved),
      ("node_count", .int nodes), ("edge_count", .int edges)]
  | product nodes edges => [("node_count", .int nodes), ("edge_count", .int edges)]
  | complement policy removed created =>
    [("directional", .bool policy.directional),
      ("allow_self_loops", .bool policy.allowSelfLoops),
      ("removed", .int removed), ("created", .int created)]
  | intersection droppedNodes droppedEdges nodes edges =>
    [("dropped_nodes", .int droppedNodes), ("dropped_edges", .int droppedEdges),
      ("node_count", .int nodes), ("edge_count", .int edges)]

end Event

end Multigraph
