import Multigraph.Datum
import Multigraph.Log.Level
import Multigraph.Operation.Event
import Multigraph.Table

/-!
Log records and how they are shown. A record has a level, an event and fields. On the console it
is a line of columns: the level in brackets, the event, the loggers in brackets, and the other
fields in the order of their names. Levels are padded to a width of nine and events to a width of
thirty, but a line does not end in spaces. A value is written quoted unless it is a plain word: a
text without blanks, quotes and equals signs stands bare. Some names of fields are reserved.
-/
namespace Multigraph.Log

/-- The fields of a record, by name. -/
abbrev Fields := Table String Datum

structure Record where
  level : Level
  event : String
  fields : Fields := ∅

/-- How records are written on the console: the widths of the level and the event, and the
characters that keep a text from standing bare. -/
structure LineFormat where
  levelWidth : Nat
  eventWidth : Nat
  special : List Char

/-- The format of console lines. -/
def Record.lineFormat : LineFormat where
  levelWidth := 9
  eventWidth := 30
  special := [' ', '\t', '=', '\r', '\n', Text.doubleQuote, Text.singleQuote]

/-- A text with spaces at its end, up to a width in characters. -/
def padRight (width : Nat) (s : String) : String :=
  s ++ String.ofList (List.replicate (width - s.length) ' ')

/-- A text without the spaces at its end. -/
def trimRight (s : String) : String :=
  String.ofList (s.toList.reverse.dropWhile fun c => c = ' ').reverse

/-- The value of a field on the console. -/
def LineFormat.value (format : LineFormat) : Datum → String
  | .scalar (.text s) => if s.toList.any format.special.contains then Text.quoted s else s
  | datum => datum.quoted

/-- A field on the console. -/
def LineFormat.field (format : LineFormat) (field : String × Datum) : String :=
  field.1 ++ "=" ++ format.value field.2

/-! ## Reserved names -/

/-- The fields in which a record keeps its own level and event. -/
def ownNames : List String := ["level", "event"]

/-- The fields that serve the making of a record and are never shown. -/
def hiddenNames : List String :=
  ["timestamp", "exc_info", "stack_info", "_record", "_from_structlog", "positional_args"]

/-- The fields that name a logger. -/
def loggerNames : List String := ["logger", "logger_name"]

/-- The field that holds the calls that led to a record. -/
def callsName : String := "stack"

/-- The field that holds the text of an error. -/
def errorName : String := "exception"

/-- The fields that stand behind a line. -/
def attachedNames : List String := [callsName, errorName]

namespace Record

/-- The entries of a record as an object: its fields, its event and its level. -/
def entries (record : Record) : List (String × Datum) :=
  let shown := record.fields.entries.filter fun field => field.1 ∉ hiddenNames
  (((⟨shown⟩ : Fields).insert "event" (.text record.event)).insert "level"
    (.text record.level.name)).entries

/-! ## Lines -/

/-- The fields that are shown with their names, in the order of their names. -/
def namedFields (record : Record) : List (String × Datum) :=
  (record.fields.entries.filter fun field =>
    field.1 ∉ ownNames ++ hiddenNames ++ loggerNames ++ attachedNames).mergeSort
      fun a b => a.1 ≤ b.1

/-- The columns of a record. -/
def columns (record : Record) : List String :=
  let loggers := loggerNames.filterMap fun name =>
    (record.fields.get? name).map fun logger => "[" ++ logger.bare ++ "]"
  ("[" ++ padRight lineFormat.levelWidth record.level.name ++ "]") ::
    padRight lineFormat.eventWidth record.event ::
    loggers ++ record.namedFields.map lineFormat.field

/-- The text of a field that stands behind a line: there is none if it is missing or null, and if
it is anything but a text the record cannot be shown. -/
def attached? (record : Record) (name : String) : Option (Option String) :=
  match record.fields.get? name with
  | none | some (.scalar .null) => some none
  | some (.scalar (.text s)) => some (some s)
  | some _ => none

/-- A rule between the calls and the error. -/
def errorRule : String := "\n\n" ++ String.ofList (List.replicate 79 '=') ++ "\n"

/-- Whether a record marks an error that was being handled. -/
def marksError (record : Record) : Bool :=
  ((record.fields.get? "exc_info").map fun mark => !mark.isEmpty).getD false

/-- The line of a record on the console, if it can be shown. -/
def line? (record : Record) : Option String := do
  let calls ← record.attached? callsName
  let error ← record.attached? errorName
  let head := trimRight (" ".intercalate record.columns)
  let behind := calls.map fun calls =>
    "\n" ++ calls ++ if error.isSome || record.marksError then errorRule else ""
  let error := error.map fun error => "\n" ++ error
  return head ++ behind.getD "" ++ error.getD ""

/-- The record about a completion event. -/
def ofEvent (event : Event) : Record :=
  { level := .debug
    event := event.name
    fields := ⟨event.fields.map fun (name, scalar) => (name, .scalar scalar)⟩ }

end Record

end Multigraph.Log
