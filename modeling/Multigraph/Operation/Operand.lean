import Multigraph.Graph.Edit

/-!
Operands. An operation that changes one graph and reads a second one may be given the same graph
twice. Then everything it reads of the second graph is read in the midst of its own changes.
-/
namespace Multigraph

/-- The graph that an operation reads: another graph, which stays as it is, or the very graph
that the operation changes. -/
inductive Operand where
  | other (g : Graph)
  | same
  deriving DecidableEq

namespace Operand

/-- What the operand is while the changed graph is at a certain state. -/
def view (operand : Operand) (current : Graph) : Graph :=
  match operand with
  | other g => g
  | same => current

/-- Reads the operand in the midst of an operation. -/
def read (operand : Operand) : Action Graph Graph := do
  return operand.view (← get)

@[simp] theorem view_other (g current : Graph) : (other g).view current = g := rfl

@[simp] theorem view_same (current : Graph) : same.view current = current := rfl

/-- Another graph is read as it is. -/
theorem read_other (g current : Graph) : (other g).read current = .ok g current := rfl

end Operand

end Multigraph
