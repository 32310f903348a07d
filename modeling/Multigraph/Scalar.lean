import Multigraph.Number.Notation
import Multigraph.Text.Quoted

/-!
Plain values: the scalars that a settings source may hold or a caller attach to a log record, and
the values that a correspondence may hold for a node. Each has a bare spelling, in which texts
stand as they are, and a quoted one, in which texts stand between quotes.
-/
namespace Multigraph

/-- The kinds of points in time. -/
inductive Moment where
  | date
  | time
  | dateTime
  deriving DecidableEq

/-- A null, a truth value, a number, a text or a point in time as it was spelled. -/
inductive Scalar where
  | null
  | bool (b : Bool)
  | int (i : Int)
  | real (x : Binary64)
  | text (s : String)
  | moment (kind : Moment) (spelling : String)
  deriving DecidableEq, Inhabited

/-- An integer in decimal digits. -/
def decimal (i : Int) : String := toString i

namespace Scalar

/-- The spelling of a scalar in which a text is quoted. -/
def quoted : Scalar → String
  | null => "None"
  | bool true => "True"
  | bool false => "False"
  | int i => decimal i
  | real x => String.ofList x.text
  | text s => Text.quoted s
  | moment _ spelling => spelling

/-- The spelling of a scalar in which a text stands bare. -/
def bare : Scalar → String
  | text s => s
  | scalar => scalar.quoted

/-- The name of the type of a scalar, as it is told to the author of a settings file or a message
template. -/
def typeName : Scalar → String
  | null => "NoneType"
  | bool _ => "bool"
  | int _ => "int"
  | real _ => "float"
  | text _ => "str"
  | moment .date _ => "date"
  | moment .time _ => "time"
  | moment .dateTime _ => "datetime"

end Scalar

/-- What a correspondence holds for a node: a handle, or a text that is no handle of any graph. -/
inductive Value where
  | int (i : Int)
  | text (s : String)
  deriving DecidableEq

namespace Value

def toScalar : Value → Scalar
  | .int i => .int i
  | .text s => .text s

def bare (v : Value) : String := v.toScalar.bare

def quoted (v : Value) : String := v.toScalar.quoted

end Value

/-- A value that may be unset, with the spelling of the null scalar when it is. -/
def quotedEntry (v : Option Value) : String := (v.map Value.toScalar).getD .null |>.quoted

end Multigraph
