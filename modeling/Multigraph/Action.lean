import Multigraph.Failure
import Multigraph.Table

/-!
Actions: steps on a state that may fail. A failing action keeps the state it had reached, so what
a broken operation leaves behind is part of its meaning. Queries are functions of the state that
may fail; an action may ask one and leave the state as it is.
-/
namespace Multigraph

/-- A step on a state of type `σ` that answers an `α` or fails, and leaves a state either way. -/
abbrev Action (σ α : Type) := EStateM Failure σ α

namespace Action

variable {σ τ α : Type}

/-- Asks a query of the current state. -/
def query (question : σ → Except Failure α) : Action σ α := fun state =>
  match question state with
  | .ok answer => .ok answer state
  | .error failure => .error failure state

/-- Goes on with a checked value, or fails as the check does. -/
def ofExcept (checked : Except Failure α) : Action σ α := query fun _ => checked

/-- Runs an action on a part of a larger state; what the part became is put back in both cases. -/
def within (get : τ → σ) (put : σ → τ → τ) (action : Action σ α) : Action τ α := fun whole =>
  match action (get whole) with
  | .ok answer part => .ok answer (put part whole)
  | .error failure part => .error failure (put part whole)

/-- The state that an action leaves, whether it succeeds or fails. -/
def after (action : Action σ α) (state : σ) : σ :=
  match action state with
  | .ok _ reached => reached
  | .error _ reached => reached

/-- The answer of an action or its failure. -/
def outcome (action : Action σ α) (state : σ) : Except Failure α :=
  match action state with
  | .ok answer _ => .ok answer
  | .error failure _ => .error failure

/-! ## What actions do -/

variable {β : Type} {action : Action σ α} {next : α → Action σ β} {state reached : σ}

/-- After a success the next action goes on from the state that was reached. -/
theorem bind_of_ok {answer : α} (ran : action state = .ok answer reached) :
    (action >>= next) state = next answer reached := by
  simp only [bind, EStateM.bind, ran]

/-- After a failure nothing more is done. -/
theorem bind_of_error {failure : Failure} (ran : action state = .error failure reached) :
    (action >>= next) state = .error failure reached := by
  simp only [bind, EStateM.bind, ran]

/-- A query that succeeds answers and leaves the state. -/
theorem query_of_ok {question : σ → Except Failure α} {answer : α}
    (asked : question state = .ok answer) : query question state = .ok answer state := by
  simp only [query, asked]

/-- A query that fails leaves the state. -/
theorem query_of_error {question : σ → Except Failure α} {failure : Failure}
    (asked : question state = .error failure) : query question state = .error failure state := by
  simp only [query, asked]

end Action

/-- The value that a table keyed by nodes holds for a node, or the failed key. -/
def Table.fetch {α : Type} (t : Table Int α) (node : Int) : Except Failure α :=
  match t.get? node with
  | some a => .ok a
  | none => .error (.missingKey node)

end Multigraph
