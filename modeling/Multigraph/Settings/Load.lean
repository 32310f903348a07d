import Multigraph.Document.Nesting
import Multigraph.Settings.Merge
import Multigraph.Settings.Validate
import Multigraph.Settings.Variable

/-!
Loading settings. Settings come from a file and from environment variables. A name in either is a
path: it names a section, or a field of a section, with double underscores or points between the
names on it. What is given for a path is laid over what was given before, the variables over the
file, so that each field is taken from the last source that gives it. Names of sections mean the
same in every letter case, and so do names of fields. Every section has to be a mapping; what is
in it is then validated.

Reading the sources, merging what they give and validating it are the work of others (`Libraries`).
Loading itself takes the variables one by one, drops the names that the merging needs for itself,
requires mappings, and puts all names into lower case. What stands here for the work of the others
is `Libraries.own`.
-/
namespace Multigraph.Settings

/-- Why settings cannot be loaded. -/
inductive LoadFailure where
  /-- There is no file at the path. -/
  | missingFile (path : String)
  /-- The file holds something, but no mapping. -/
  | notSections (typeName : String)
  /-- What is given for a section is no mapping. -/
  | notSection (name typeName : String)
  /-- The name of a field is no text. -/
  | notName (typeName : String)
  /-- The sections do not pass validation. -/
  | invalid (faults : List Fault)
  deriving DecidableEq

/-- The wording of a failure. Faults of validation have none, only their codes. -/
def LoadFailure.message : LoadFailure → String
  | missingFile path => "Config file not found: " ++ path
  | notSections typeName => "'" ++ typeName ++ "' object has no attribute 'items'"
  | notSection name typeName =>
    "Config section '" ++ name ++ "' must be a mapping, got " ++ typeName
  | notName typeName => "'" ++ typeName ++ "' object has no attribute 'lower'"
  | invalid _ => ""

/-! ## Paths -/

/-- Splits a path at every double underscore and at every point. -/
def splitPath : List Char → List (List Char)
  | [] => [[]]
  | '_' :: '_' :: rest => [] :: splitPath rest
  | c :: rest =>
    if c = '.' then [] :: splitPath rest
    else match splitPath rest with
      | part :: parts => (c :: part) :: parts
      | [] => [[c]]

/-- The part of a path before its first double underscore in upper case, and the rest of it. -/
def upperStart : List Char → List Char × List Char
  | [] => ([], [])
  | '_' :: '_' :: rest => ([], '_' :: '_' :: rest)
  | c :: rest => (c :: (upperStart rest).1, (upperStart rest).2)

/-- A path as it is known in a file: what stands before the first double underscore, or all of it,
is in upper case. -/
def upperPath (path : String) : String :=
  let (start, rest) := upperStart path.toList
  Text.upperCase (String.ofList start) ++ String.ofList rest

/-- A datum inside mappings, one for each name on a path. -/
def nest (datum : Datum) : List String → Datum
  | [] => datum
  | name :: path => .mapping [(.text name, nest datum path)]

/-! ## Sources -/

/-- Sections as sources give them, by name in upper case. -/
abbrev Sections := Table String Datum

/-- The name under which a section is known: in upper case, without spaces at its ends. -/
def sectionName (name : String) : String :=
  Text.upperCase (String.ofList (Text.strip name.toList))

/-- The sections after a datum is laid over what was given for a path. -/
def lay (sections : Sections) (given : String × Datum) : Sections :=
  match (splitPath given.1.toList).map String.ofList with
  | [] => sections
  | name :: path =>
    let name := sectionName name
    let datum := nest given.2 path
    sections.insert name (((sections.get? name).map fun held => held.merge datum).getD datum)

/-- The sections that the datum of a file gives. -/
def ofDocument (document : Datum) : Except LoadFailure Sections :=
  if document.isEmpty then .ok ∅
  else match document.entries? with
    | some entries =>
      let given := entries.map fun (name, datum) => (upperPath name.bare, datum)
      .ok ((Table.ofList given).entries.foldl lay ∅)
    | none => .error (.notSections document.typeName)

/-- The names under which sections are held that are not shown. -/
def hiddenNames : List String := ["SETTINGS_MODULE", "PROJECT_ROOT"]

/-- The sections that are shown. -/
def shown (sections : Sections) : Sections :=
  ⟨sections.entries.filter fun entry => entry.1 ∉ hiddenNames⟩

/-- What loading leaves to others. -/
structure Libraries where
  /-- The datum that the text of a file spells. -/
  document : String → Datum
  /-- The datum that a scalar in a file stands for. -/
  cast : Scalar → Datum
  /-- The datum that the value of a variable stands for. -/
  value : String → Datum
  /-- The sections that the datum of a file gives. -/
  sections : Datum → Except LoadFailure Sections
  /-- Lays a datum that is given for a path over sections. -/
  lay : Sections → String × Datum → Sections
  /-- Makes settings of sections whose names are in lower case. -/
  validate : List (String × Datum) → Checked Settings

/-- The readers, the merging and the validation of this library. They know plain documents and
literals: no tags, anchors, aliases or block scalars in a file, and no texts that ask for a
conversion. What is proved of loading does not depend on them. -/
def Libraries.own : Libraries where
  document := Document.read
  cast := .scalar
  value := Variable.read
  sections document := return shown (← ofDocument document)
  lay sections given := shown (Settings.lay sections given)
  validate sections := read ⟨sections⟩

/-! ## Loading -/

/-- The names that are handed to the merging when it is set up, and that it shows again. -/
def internalNames : List String := ["LOAD_DOTENV", "ENVIRONMENTS", "SETTINGS_FILES"]

/-- The sections that are no internal matter, by name in lower case. -/
def named (sections : Sections) : List (String × Datum) :=
  let given := sections.entries.filter fun entry => entry.1 ∉ internalNames
  (Table.ofList (given.map fun (name, datum) => (Text.lowerCase name, datum))).entries

/-- The fields of a section with their names in lower case. -/
def foldNames : List (Scalar × Datum) → Except LoadFailure (List (Scalar × Datum))
  | [] => .ok []
  | (.text name, datum) :: rest => do
    return (.text (Text.lowerCase name), datum) :: (← foldNames rest)
  | (name, _) :: _ => .error (.notName name.typeName)

/-- A section, which has to be a mapping. -/
def requireSection (given : String × Datum) : Except LoadFailure (String × Datum) :=
  match given.2.entries? with
  | some entries => do return (given.1, .mapping (← foldNames entries))
  | none => .error (.notSection given.1 given.2.typeName)

/-- The sections, each of which has to be a mapping, up to the first that is none. -/
def requireSections : List (String × Datum) → Except LoadFailure (List (String × Datum))
  | [] => .ok []
  | first :: rest => do return (← requireSection first) :: (← requireSections rest)

/-- Where settings are looked for: a file, and the variables whose names have a prefix. -/
structure Origin where
  path : String
  namePrefix : String

namespace Libraries

/-- The sections of a file with the variables of the environment laid over them. -/
def withEnvironment (libraries : Libraries) (namePrefix : String) (file : Sections)
    (environment : List (String × String)) : Sections :=
  (environment.filterMap fun (name, value) =>
    (Variable.path? namePrefix name).map fun path => (path, libraries.value value)).foldl
      libraries.lay file

/-- Settings from the datum of a file and the variables of the environment. -/
def ofSources (libraries : Libraries) (namePrefix : String) (document : Datum)
    (environment : List (String × String)) : Except LoadFailure Settings := do
  let file ← libraries.sections document
  let overlaid := libraries.withEnvironment namePrefix file environment
  match libraries.validate (← requireSections (named overlaid)) with
  | .ok settings => return settings
  | .error faults => throw (.invalid faults)

/-- Settings from the text of a file, if there is one, and the variables of the environment. -/
def load (libraries : Libraries) (origin : Origin) (text : Option String)
    (environment : List (String × String)) : Except LoadFailure Settings :=
  match text with
  | some text => libraries.ofSources origin.namePrefix (libraries.document text) environment
  | none => .error (.missingFile origin.path)

end Libraries

/-- Settings as this library loads them. -/
def load : Origin → Option String → List (String × String) → Except LoadFailure Settings :=
  Libraries.own.load

end Multigraph.Settings
