/-!
Levels of log records, and the methods by which a logger is asked to log at them. A level has a
rank, by which levels are compared.
-/
namespace Multigraph.Log

inductive Level where
  | debug
  | info
  | warning
  | error
  | critical
  deriving DecidableEq

namespace Level

/-- The name under which a record shows its level. -/
def name : Level → String
  | debug => "debug"
  | info => "info"
  | warning => "warning"
  | error => "error"
  | critical => "critical"

/-- The name under which settings give a level. -/
def upperName : Level → String
  | debug => "DEBUG"
  | info => "INFO"
  | warning => "WARNING"
  | error => "ERROR"
  | critical => "CRITICAL"

/-- The rank by which levels are compared. -/
def rank : Level → Nat
  | debug => 10
  | info => 20
  | warning => 30
  | error => 40
  | critical => 50

/-- Every level, each once, the lowest first. -/
def all : List Level := [debug, info, warning, error, critical]

end Level

/-- A method of a logger. -/
structure Method where
  name : String
  level : Level
  deriving DecidableEq

namespace Method

/-- The method that has the name of its level. -/
def ofLevel (level : Level) : Method := ⟨level.name, level⟩

/-- The methods that have names of their own. -/
def others : List Method := [⟨"fatal", .critical⟩, ⟨"exception", .error⟩]

/-- Every method, each once. -/
def all : List Method := Level.all.map ofLevel ++ others

/-- The method of a name; the short name for warnings is another name of the same method. -/
def ofName? (name : String) : Option Method :=
  if name = "warn" then some (ofLevel .warning)
  else all.find? fun method => method.name = name

/-- Every method is found under its own name. -/
theorem ofName?_name {method : Method} (known : method ∈ all) :
    ofName? method.name = some method := by
  revert method
  decide

end Method

end Multigraph.Log
