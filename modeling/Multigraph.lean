import Multigraph.Graph.Component
import Multigraph.Graph.Snapshot
import Multigraph.Workspace.Command
import Multigraph.Log.Entry
import Multigraph.Log.Threshold
import Multigraph.Settings.Load
import Multigraph.Proofs.Operation.Complement
import Multigraph.Proofs.Operation.Join
import Multigraph.Proofs.Product.Basic
import Multigraph.Proofs.Operation.Intersection
import Multigraph.Proofs.Operation.Union
import Multigraph.Proofs.Product.Strong
import Multigraph.Proofs.Graph.Simple
import Multigraph.Proofs.Product.Modular
import Multigraph.Proofs.Operation.Complemented
import Multigraph.Proofs.Operation.DisjointUnion
import Multigraph.Proofs.Operation.Duality
import Multigraph.Proofs.Product.Room
import Multigraph.Proofs.Product.Commutative
import Multigraph.Proofs.Product.Associative
import Multigraph.Proofs.Product.Duality
import Multigraph.Proofs.Operation.Aliased
import Multigraph.Proofs.Operation.Merging
import Multigraph.Proofs.Workspace.Refinement
import Multigraph.Proofs.Product.Aliased
import Multigraph.Proofs.Workspace.Aliased
import Multigraph.Proofs.Action.Simulates
import Multigraph.Proofs.Graph.Alike
import Multigraph.Proofs.Operation.Alike
import Multigraph.Proofs.Product.Alike
import Multigraph.Proofs.Graph.Shape
import Multigraph.Proofs.Workspace.Shape
import Multigraph.Proofs.Operation.Connected
import Multigraph.Proofs.Operation.Lattice
import Multigraph.Proofs.Product.Distributive
import Multigraph.Proofs.Workspace.Simple
import Multigraph.Proofs.Operation.Recomplemented
import Multigraph.Proofs.Operation.Conservation
import Multigraph.Proofs.Product.Kernel
import Multigraph.Proofs.Operation.Survivors
import Multigraph.Proofs.Operation.Thinning
import Multigraph.Proofs.Workspace.Views
import Multigraph.Proofs.Operation.Embedding
import Multigraph.Proofs.Product.Dispatch
import Multigraph.Proofs.Workspace.Ledger
import Multigraph.Proofs.Settings.Load
