import Multigraph.Product.Kind
import Multigraph.Product.Rule

/-!
Graph products. A product is asked for by a kind and, for a rooted product and no other, a root.
A request that does not fit is refused before the destination changes, and so is a root that is
no node of the second factor.
-/
namespace Multigraph

/-- A product that can be built. -/
inductive Product where
  | cartesian
  | tensor
  | lexicographical
  | strong
  | coNormal
  | modular
  | rooted (root : NodeId)
  deriving DecidableEq

namespace Product

/-- The product that a kind and perhaps a root ask for. -/
def ofKind (kind : ProductKind) (root : Option NodeId) : Except Failure Product :=
  match kind, root with
  | .rooted, some root => .ok (.rooted root)
  | .rooted, none => .error .rootRequired
  | kind, some _ => .error (.rootRefused kind)
  | .cartesian, none => .ok .cartesian
  | .tensor, none => .ok .tensor
  | .lexicographical, none => .ok .lexicographical
  | .strong, none => .ok .strong
  | .coNormal, none => .ok .coNormal
  | .modular, none => .ok .modular

/-- The product that a caller asks for. -/
def ofRequest (kind : Datum) (root : Option NodeId) : Except Failure Product :=
  match ProductKind.ofDatum? kind with
  | some kind => ofKind kind root
  | none => .error (.unknownKind kind.quoted)

open Drawing in
/-- What a product draws from the node of a pair. -/
def drawing (product : Product) (first second : Graph) : Drawing :=
  match product with
  | cartesian => followedBy (secondEdges second) (firstEdges first)
  | tensor => bothEdges first second
  | lexicographical => followedBy (firstEdgesToAll first second) (secondEdges second)
  | strong =>
    followedBy (followedBy (secondEdges second) (firstEdges first)) (bothEdges first second)
  | coNormal => followedBy (firstEdgesToAll first second) (secondEdgesToAll first second)
  | modular => followedBy (bothEdges first second) (apartEdges first second)
  | rooted root => followedBy (secondEdges second) (firstEdgesAt root first)

/-- Refuses a root that is no node of the second factor. -/
def requireRoot (product : Product) (second : Graph) : Except Failure Unit :=
  match product with
  | rooted root => if root ∈ second.nodes then .ok () else .error (.missingRoot root)
  | _ => .ok ()

/-- Builds a product of two factors. -/
def build (product : Product) (first second : Operand) : Action (Build Unit) Event := do
  Action.query fun build => product.requireRoot (second.view build.graph)
  Build.run first second fun first second => (product.drawing first second).call

/-- Builds the product that a caller asks for. -/
def request (kind : Datum) (root : Option NodeId) (first second : Operand) :
    Action (Build Unit) Event := do
  let product ← Action.ofExcept (ofRequest kind root)
  product.build first second

end Product

end Multigraph
