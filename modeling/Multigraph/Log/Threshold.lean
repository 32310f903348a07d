import Multigraph.Log.Level
import Multigraph.Text.Case
import Multigraph.Text.Quoted

/-!
Thresholds. A record is shown when its rank is not below the threshold. A threshold is asked for
by name, in any letter case: by the name of a level, by one of the two older names, or by the name
for no threshold at all. Two more names are known, but stand for something that is no level.
-/
namespace Multigraph.Log

/-- Why a name gives no threshold. -/
inductive ThresholdFault where
  /-- The name means nothing; it is kept in upper case. -/
  | unknown (name : String)
  /-- The name stands for a text that is no level. -/
  | otherText (text : String)
  /-- The name stands for something else than a level, kept in its spelling. -/
  | noLevel (spelling : String)
  deriving DecidableEq

/-- The wording of a fault. -/
def ThresholdFault.message : ThresholdFault → String
  | unknown name => "module 'logging' has no attribute '" ++ name ++ "'"
  | otherText text => "Unknown level: " ++ Text.quoted text
  | noLevel spelling => "Level not an integer or a valid string: " ++ spelling

/-- The layout of a line unless another is given. -/
def usualLayout : String := "%(levelname)s:%(name)s:%(message)s"

/-- The layouts that are known, each with its mark, its kind and an example. -/
def layouts : List (String × String × String) :=
  [("%", "PercentStyle", usualLayout),
    ("\x7b", "StrFormatStyle", "\x7blevelname\x7d:\x7bname\x7d:\x7bmessage\x7d"),
    ("$", "StringTemplateStyle", "$\x7blevelname\x7d:$\x7bname\x7d:$\x7bmessage\x7d")]

/-- The spelling of the known layouts. -/
def layoutsSpelling : String :=
  "\x7b" ++ ", ".intercalate (layouts.map fun (mark, kind, sample) =>
    Text.quoted mark ++ ": (<class 'logging." ++ kind ++ "'>, " ++ Text.quoted sample ++ ")") ++
    "\x7d"

/-- What the names besides those of the levels stand for. -/
def otherNames : List (String × Except ThresholdFault Nat) :=
  [("WARN", .ok Level.warning.rank), ("FATAL", .ok Level.critical.rank), ("NOTSET", .ok 0),
    ("BASIC_FORMAT", .error (.otherText usualLayout)),
    ("_STYLES", .error (.noLevel layoutsSpelling))]

/-- The threshold of a name. -/
def threshold (name : String) : Except ThresholdFault Nat :=
  let name := Text.upperCase name
  match Level.all.find? fun level => level.upperName = name with
  | some level => .ok level.rank
  | none => (otherNames.lookup name).getD (.error (.unknown name))

end Multigraph.Log
