import Multigraph.Datum

/-!
The kinds of graph product. All share one grid of nodes, a node for each pair of nodes of the two
factors, and differ in the edges they draw on it.
-/
namespace Multigraph

inductive ProductKind where
  | cartesian
  | tensor
  | lexicographical
  | strong
  | coNormal
  | modular
  | rooted
  deriving DecidableEq

namespace ProductKind

/-- Every kind, each once. -/
def all : List ProductKind :=
  [cartesian, tensor, lexicographical, strong, coNormal, modular, rooted]

/-- The name by which a caller asks for a kind. -/
def name : ProductKind → String
  | cartesian => "cartesian"
  | tensor => "tensor"
  | lexicographical => "lexicographical"
  | strong => "strong"
  | coNormal => "co_normal"
  | modular => "modular"
  | rooted => "rooted"

/-- The kind that a datum names: only a text that is exactly a name does. -/
def ofDatum? : Datum → Option ProductKind
  | .scalar (.text s) => all.find? fun kind => kind.name = s
  | _ => none

/-- Every kind is found under its own name. -/
theorem ofDatum?_name (kind : ProductKind) : ofDatum? (.text kind.name) = some kind := by
  cases kind <;> decide

/-- Only its own name finds a kind. -/
theorem ofDatum?_eq_some {datum : Datum} {kind : ProductKind}
    (found : ofDatum? datum = some kind) : datum = .text kind.name := by
  unfold ofDatum? at found
  split at found
  · have named := List.find?_some found
    rw [of_decide_eq_true named]
    rfl
  · cases found

end ProductKind

end Multigraph
