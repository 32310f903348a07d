import Multigraph.Log.Record
import Multigraph.Operation.Complement
import Multigraph.Template.Filling

/-!
Log entries: what is asked of loggers. A structured logger makes a record of a message with fields
at once, whether it will be shown or not, and refuses a message whose template does not fit its
arguments. A plain logger makes no record below the threshold, and drops such a message. Operations
log their completion events. The main statement is `mem_shown`: without faults, a record is shown
exactly when some entry makes it and its rank is not below the threshold.
-/
namespace Multigraph.Log

inductive Entry where
  /-- A message for a structured logger. -/
  | structured (method : Method) (template : String) (arguments : List Datum) (fields : Fields)
  /-- A message for a plain logger. -/
  | plain (method : Method) (template : String) (arguments : List Datum)
  /-- The complement of a newly built graph. -/
  | complement (nodes : Nat) (ends : List (NodeId × NodeId)) (policy : ComplementPolicy)

/-- Why an entry is refused. -/
inductive EntryFault where
  | template (fault : Template.Fault)
  /-- A field has the name of what a caller of a method gives without a name. -/
  | takenName (method name : String)
  | graph (failure : Failure)
  deriving DecidableEq

/-- The wording of a fault. -/
def EntryFault.message : EntryFault → String
  | template fault => fault.message
  | takenName method name =>
    "BoundLogger." ++ method ++ "() got multiple values for argument '" ++ name ++ "'"
  | graph failure => failure.message

/-! ## Names of fields -/

/-- The names that a method of a structured logger keeps for itself. -/
def methodNames : List String := ["self", "event"]

/-- The method to which every other method of a structured logger passes its message on. -/
def commonMethod : String := "_proxy_to_logger"

/-- The names that the common method keeps for itself besides. -/
def commonNames : List String := ["method_name"]

/-- Refuses fields of which one has a name that a method keeps for itself. -/
def requireFree (method : String) (taken : List String) (fields : Fields) :
    Except EntryFault Unit :=
  match fields.keys.find? fun name => name ∈ taken with
  | some name => .error (.takenName method name)
  | none => .ok ()

/-! ## Records of entries -/

/-- A template that is filled with its arguments. -/
def filled (template : String) (arguments : List Datum) : Except EntryFault String :=
  match Template.format template arguments with
  | .ok event => .ok event
  | .error fault => .error (.template fault)

/-- The complement of a newly built graph, as far as it gets. -/
def complementOf (nodes : Nat) (ends : List (NodeId × NodeId)) (policy : ComplementPolicy) :
    Except EntryFault Event :=
  let build : Action Graph Event := do
    Graph.grow nodes ends
    Graph.complement policy
  match build.outcome {} with
  | .ok event => .ok event
  | .error failure => .error (.graph failure)

/-- The record that an entry makes, if it makes one. -/
def Entry.record? : Entry → Except EntryFault (Option Record)
  | structured method template arguments fields => do
    requireFree method.name methodNames fields
    requireFree commonMethod commonNames fields
    let event ← filled template arguments
    return some { level := method.level, event := event, fields := fields }
  | plain method template arguments =>
    .ok ((Template.format template arguments).toOption.map fun event =>
      { level := method.level, event := event })
  | complement nodes ends policy => do
    return some (Record.ofEvent (← complementOf nodes ends policy))

/-- The records that entries make, up to the first entry that is refused. -/
def records : List Entry → Except EntryFault (List Record)
  | [] => .ok []
  | entry :: rest => do
    let record ← entry.record?
    return record.toList ++ (← records rest)

/-- The records of entries that are shown under a threshold. -/
def shown (threshold : Nat) (entries : List Entry) : Except EntryFault (List Record) := do
  return (← records entries).filter fun record => threshold ≤ record.level.rank

/-- A record that is shown was made, and its rank is not below the threshold. -/
theorem mem_shown {threshold : Nat} {entries : List Entry} {made : List Record} {record : Record}
    (logged : records entries = .ok made) :
    (∃ visible, shown threshold entries = .ok visible ∧ record ∈ visible) ↔
      record ∈ made ∧ threshold ≤ record.level.rank := by
  simp [shown, logged, bind, Except.bind, pure, Except.pure]

end Multigraph.Log
