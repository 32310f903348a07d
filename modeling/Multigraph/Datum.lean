import Multigraph.Scalar

/-!
Data: scalars, lists of data, and mappings from scalars to data. Settings are read from data, and
log records carry them.
-/
namespace Multigraph

inductive Datum where
  | scalar (s : Scalar)
  | list (items : List Datum)
  | mapping (entries : List (Scalar × Datum))
  deriving Inhabited

namespace Datum

/-- The datum that stands for nothing. -/
def null : Datum := scalar .null

def int (i : Int) : Datum := scalar (.int i)

def bool (b : Bool) : Datum := scalar (.bool b)

def text (s : String) : Datum := scalar (.text s)

/-- The name of the type of a datum. -/
def typeName : Datum → String
  | scalar s => s.typeName
  | list _ => "list"
  | mapping _ => "dict"

/-- The entries of a mapping. -/
def entries? : Datum → Option (List (Scalar × Datum))
  | mapping entries => some entries
  | _ => none

mutual

/-- The spelling of a datum in which texts are quoted. -/
def quoted : Datum → String
  | scalar s => s.quoted
  | list items => "[" ++ ", ".intercalate (quotedItems items) ++ "]"
  | mapping entries => "\x7b" ++ ", ".intercalate (quotedEntries entries) ++ "\x7d"

/-- The spellings of data. -/
def quotedItems : List Datum → List String
  | [] => []
  | datum :: rest => datum.quoted :: quotedItems rest

/-- The spellings of entries, each a name, a colon and a datum. -/
def quotedEntries : List (Scalar × Datum) → List String
  | [] => []
  | (name, datum) :: rest => (name.quoted ++ ": " ++ datum.quoted) :: quotedEntries rest

end

/-- The spelling of a datum in which a text stands bare, unless it is part of a list or a
mapping. -/
def bare : Datum → String
  | scalar s => s.bare
  | datum => datum.quoted

/-- Whether a datum is empty: null, false, zero, or a text, a list or a mapping with nothing in
it. -/
def isEmpty : Datum → Bool
  | scalar .null => true
  | scalar (.bool b) => !b
  | scalar (.int i) => i = 0
  | scalar (.real (.finite _ significand _)) => significand = 0
  | scalar (.text s) => s.isEmpty
  | list items => items.isEmpty
  | mapping entries => entries.isEmpty
  | _ => false

end Datum

end Multigraph
