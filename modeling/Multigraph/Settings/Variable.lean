import Multigraph.Literal.Value
import Multigraph.Text.Space

/-!
Environment variables for settings. The name of a variable is a prefix, which the caller chooses,
and then the path of a section or a field. The value is a literal, or else a text as it stands.
-/
namespace Multigraph.Variable

/-- The path that a variable names, if its name has the prefix. -/
def path? (namePrefix name : String) : Option String :=
  if namePrefix.toList.isPrefixOf name.toList then
    some (String.ofList (name.toList.drop namePrefix.length))
  else none

/-- Truth values may begin with a capital letter; no other literal changes. -/
def withPlainTruth (text : List Char) : List Char :=
  if [['T', 'r', 'u', 'e'], ['F', 'a', 'l', 's', 'e']].contains (Text.strip text) then
    text.map Char.toLower
  else text

/-- A text in which a carriage return does not stand before a line feed. -/
def withLineFeeds : List Char → List Char
  | '\r' :: '\n' :: rest => '\n' :: withLineFeeds rest
  | c :: rest => c :: withLineFeeds rest
  | [] => []

/-- The datum that the value of a variable spells. -/
def read (value : String) : Datum :=
  let text := withPlainTruth value.toList
  (Literal.datum? (withLineFeeds text)).getD (.text (String.ofList text))

end Multigraph.Variable
