import Multigraph.Datum
import Multigraph.Settings.Basic
import Multigraph.Table

/-!
Validation of settings. Sections are read from mappings of names to data. Every field is read on
its own and all faults are reported together: those of the declared fields in the order of their
declaration, and after them the fields that are not declared, in the order in which they were
given. A field that is not given has its default.
-/
namespace Multigraph

/-- What may be wrong with a datum or a name. -/
inductive Fault.Reason where
  /-- A text or an integer that says neither yes nor no. -/
  | noFlag
  /-- A datum that could not say yes or no. -/
  | notFlag
  /-- A datum that is none of the allowed texts. -/
  | notAllowed
  /-- A name that is not declared. -/
  | undeclared
  /-- A section that is not a mapping. -/
  | notMapping
  /-- A change of settings that have been made. -/
  | frozen
  deriving DecidableEq

/-- Something wrong at a place in the settings. -/
structure Fault where
  path : List String
  reason : Fault.Reason
  deriving DecidableEq

/-- The code of a reason. -/
def Fault.Reason.code : Fault.Reason → String
  | noFlag => "bool_parsing"
  | notFlag => "bool_type"
  | notAllowed => "literal_error"
  | undeclared => "extra_forbidden"
  | notMapping => "model_type"
  | frozen => "frozen_instance"

/-- A value, or the faults that prevent it. -/
abbrev Checked (α : Type) := Except (List Fault) α

namespace Checked

/-- Combines two values, or collects the faults of both. -/
def both {α β γ : Type} (combine : α → β → γ) (first : Checked α) (second : Checked β) :
    Checked γ :=
  match first, second with
  | .ok a, .ok b => .ok (combine a b)
  | .error faults, .ok _ => .error faults
  | .ok _, .error faults => .error faults
  | .error faults, .error others => .error (faults ++ others)

/-- The faults of a checked value. -/
def faults {α : Type} : Checked α → List Fault
  | .ok _ => []
  | .error faults => faults

/-- Both faults are reported, the first ones first. -/
theorem faults_both {α β γ : Type} (combine : α → β → γ) (first : Checked α)
    (second : Checked β) : faults (both combine first second) = faults first ++ faults second := by
  cases first <;> cases second <;> simp [both, faults]

end Checked

namespace Settings

/-! ## Single fields -/

/-- The texts that say no, in lower case. -/
def noTexts : List String := ["0", "off", "f", "false", "n", "no"]

/-- The texts that say yes, in lower case. -/
def yesTexts : List String := ["1", "on", "t", "true", "y", "yes"]

/-- The number of integers that sixty-four bits with a sign can hold on either side of zero. -/
def wordBound : Int := 9223372036854775808

/-- Whether an integer fits into sixty-four bits with a sign. -/
def fitsWord (i : Int) : Bool := -wordBound ≤ i && i < wordBound

/-- The flag that an integer stands for. -/
def flagOfInt (i : Int) : Except Fault.Reason Bool :=
  if i = 0 then .ok false
  else if i = 1 then .ok true
  else if fitsWord i then .error .noFlag
  else .error .notFlag

/-- The flag that a number stands for: it has to be an integer strictly between the bounds of
sixty-four bits with a sign. -/
def flagOfReal (x : Binary64) : Except Fault.Reason Bool :=
  match x.toInt? with
  | some i => if i = -wordBound then .error .notFlag else flagOfInt i
  | none => .error .notFlag

/-- The flag that a text stands for, in any letter case. -/
def flagOfText (s : String) : Except Fault.Reason Bool :=
  if s.toLower ∈ noTexts then .ok false
  else if s.toLower ∈ yesTexts then .ok true
  else .error .noFlag

/-- The flag that a datum stands for. -/
def flag : Datum → Except Fault.Reason Bool
  | .scalar (.bool b) => .ok b
  | .scalar (.int i) => flagOfInt i
  | .scalar (.real x) => flagOfReal x
  | .scalar (.text s) => flagOfText s
  | _ => .error .notFlag

/-- The levels that settings may give. -/
def allowedLevels : List Log.Level := [.debug, .info, .warning, .error]

/-- The level that a datum stands for: exactly its name in capitals. -/
def level : Datum → Except Fault.Reason Log.Level
  | .scalar (.text s) =>
    match allowedLevels.find? fun level => level.upperName = s with
    | some level => .ok level
    | none => .error .notAllowed
  | _ => .error .notAllowed

/-! ## Sections -/

/-- The given fields of a section, by name. -/
abbrev Fields := Table String Datum

/-- The fields that the entries of a mapping give. -/
def Fields.ofEntries (entries : List (Scalar × Datum)) : Fields :=
  Table.ofList (entries.map fun (name, datum) => (name.bare, datum))

/-- Reads one field, or takes its default. -/
def field {α : Type} (path : List String) (fields : Fields) (name : String) (default : α)
    (read : Datum → Except Fault.Reason α) : Checked α :=
  match fields.get? name with
  | none => .ok default
  | some datum =>
    match read datum with
    | .ok value => .ok value
    | .error reason => .error [⟨path ++ [name], reason⟩]

/-- Reports the fields that are not declared. -/
def onlyDeclared (path : List String) (declared : List String) (fields : Fields) : Checked Unit :=
  match fields.keys.filter fun name => name ∉ declared with
  | [] => .ok ()
  | names => .error (names.map fun name => ⟨path ++ [name], .undeclared⟩)

/-- A value once its fields and the names given beside them are in order. -/
def checkedWith {α : Type} (value : Checked α) (names : Checked Unit) : Checked α :=
  Checked.both (fun value _ => value) value names

/-- Reads the logging section. -/
def readLogging (path : List String) (fields : Fields) : Checked LoggingSettings :=
  checkedWith
    (Checked.both LoggingSettings.mk (field path fields "level" .info level)
      (field path fields "json_output" false flag))
    (onlyDeclared path ["level", "json_output"] fields)

/-- Reads the section on unions. -/
def readUnion (path : List String) (fields : Fields) : Checked UnionPolicy :=
  checkedWith
    (Checked.both UnionPolicy.mk (field path fields "parallel_free" false flag)
      (field path fields "directed" false flag))
    (onlyDeclared path ["parallel_free", "directed"] fields)

/-- Reads the section on complements. -/
def readComplement (path : List String) (fields : Fields) : Checked ComplementPolicy :=
  checkedWith
    (Checked.both ComplementPolicy.mk (field path fields "directional" false flag)
      (field path fields "allow_self_loops" false flag))
    (onlyDeclared path ["directional", "allow_self_loops"] fields)

/-- Reads a section, which has to be a mapping, or takes its default. -/
def readSection {α : Type} (fields : Fields) (name : String) (default : α)
    (read : List String → Fields → Checked α) : Checked α :=
  match fields.get? name with
  | none => .ok default
  | some datum =>
    match datum.entries? with
    | some entries => read [name] (.ofEntries entries)
    | none => .error [⟨[name], .notMapping⟩]

/-- Reads settings from their sections. -/
def read (fields : Fields) : Checked Settings :=
  checkedWith
    (Checked.both (fun logging (policies : UnionPolicy × ComplementPolicy) =>
        { logging := logging, union := policies.1, complement := policies.2 })
      (readSection fields "logging" {} readLogging)
      (Checked.both Prod.mk (readSection fields "union" {} readUnion)
        (readSection fields "complement" {} readComplement)))
    (onlyDeclared [] ["logging", "union", "complement"] fields)

/-- Changing a field of settings that have been made is refused, whatever the field. -/
def assign {α : Type} (name : String) : Checked α := .error [⟨[name], .frozen⟩]

end Settings

end Multigraph
