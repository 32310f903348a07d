import Multigraph.Proofs.Settings.Merge
import Multigraph.Settings.Validate

/-!
Settings field by field. There are three sections with two fields each, and every field has a
default of its own. Which data a field accepts is told by an `Acceptance`. What is given for a field
settles it or is refused with a reason, whatever is given for the others (`Acceptance.settle`), and
the faults of settings are those of the fields that are refused, in the order of declaration
(`Acceptance.faults`). Validation of whole sections does nothing else, as long as only declared names
are given (`read_eq_settleAll`).
-/
namespace Multigraph

theorem Checked.both_eq_ok_iff {α β γ : Type} {combine : α → β → γ} {first : Checked α}
    {second : Checked β} {value : γ} : both combine first second = .ok value ↔
      ∃ a, first = .ok a ∧ ∃ b, second = .ok b ∧ combine a b = value := by
  cases first <;> cases second <;> simp [both]

namespace Settings

/-! ## Sections and fields -/

/-- The sections of settings. -/
inductive Section where
  | logging
  | union
  | complement
  deriving DecidableEq

/-- The fields of settings. -/
inductive Field where
  | level
  | jsonOutput
  | parallelFree
  | directed
  | directional
  | allowSelfLoops
  deriving DecidableEq

/-- The sections in the order in which they are declared. -/
def Section.all : List Section := [.logging, .union, .complement]

/-- The name of a section. -/
def Section.name : Section → String
  | logging => "logging"
  | union => "union"
  | complement => "complement"

theorem Section.name_injective : Function.Injective Section.name := by
  intro part other same
  cases part <;> cases other <;> first | rfl | exact absurd same (by decide)

namespace Field

/-- The fields in the order in which they are declared. -/
def all : List Field := [level, jsonOutput, parallelFree, directed, directional, allowSelfLoops]

theorem mem_all (field : Field) : field ∈ all := by cases field <;> decide

/-- The section that a field belongs to. -/
def part : Field → Section
  | level | jsonOutput => .logging
  | parallelFree | directed => .union
  | directional | allowSelfLoops => .complement

/-- The name of a field within its section. -/
def name : Field → String
  | level => "level"
  | jsonOutput => "json_output"
  | parallelFree => "parallel_free"
  | directed => "directed"
  | directional => "directional"
  | allowSelfLoops => "allow_self_loops"

theorem name_injective : Function.Injective name := by
  intro field other same
  cases field <;> cases other <;> first | rfl | exact absurd same (by decide)

/-- The place of a field in the settings. -/
def path (field : Field) : List String := [field.part.name, field.name]

theorem path_injective : Function.Injective path := fun _ _ same =>
  name_injective (List.cons.inj (List.cons.inj same).2).1

/-- What a field holds. -/
abbrev Value : Field → Type
  | level => Log.Level
  | _ => Bool

/-- The value of a field in settings. -/
def get (settings : Settings) : (field : Field) → field.Value
  | level => settings.logging.level
  | jsonOutput => settings.logging.jsonOutput
  | parallelFree => settings.union.parallelFree
  | directed => settings.union.directed
  | directional => settings.complement.directional
  | allowSelfLoops => settings.complement.allowSelfLoops

/-- The value that a field has when it is not given. -/
def default (field : Field) : field.Value := field.get {}

/-- How what is given for a field is read. -/
def read : (field : Field) → Datum → Except Fault.Reason field.Value
  | level => Settings.level
  | jsonOutput | parallelFree | directed | directional | allowSelfLoops => Settings.flag

end Field

/-- What the fields accept: the value that a datum stands for in a field, or why it stands for
none. -/
structure Acceptance where
  accept : (field : Field) → Datum → Except Fault.Reason field.Value

namespace Acceptance

/-- What the fields accept when they are read here. -/
def own : Acceptance := ⟨Field.read⟩

variable (acceptance : Acceptance) (field : Field)

/-- The value of a field for which something or nothing is given, or why there is none. -/
def settle : Option Datum → Except Fault.Reason field.Value
  | none => .ok field.default
  | some datum => acceptance.accept field datum

/-- The fault of a field whose value is refused. -/
def fault? (given : Option Datum) : Option Fault :=
  match acceptance.settle field given with
  | .ok _ => none
  | .error reason => some ⟨field.path, reason⟩

/-- The faults of settings for which something or nothing is given in each field. -/
def faults (given : Field → Option Datum) : List Fault :=
  Field.all.filterMap fun field => acceptance.fault? field (given field)

/-- The value of a field, or its fault. -/
def check (given : Option Datum) : Checked field.Value :=
  match acceptance.settle field given with
  | .ok value => .ok value
  | .error reason => .error [⟨field.path, reason⟩]

variable {acceptance field}

theorem fault?_eq_some_iff {given : Option Datum} {fault : Fault} :
    acceptance.fault? field given = some fault ↔
      ∃ reason, acceptance.settle field given = .error reason ∧ ⟨field.path, reason⟩ = fault := by
  rw [fault?]
  cases acceptance.settle field given <;> simp

/-- Among the faults there is one at a field just when its value is refused. -/
theorem mem_faults_iff {given : Field → Option Datum} {reason : Fault.Reason} :
    ⟨field.path, reason⟩ ∈ acceptance.faults given ↔
      acceptance.settle field (given field) = .error reason := by
  simp only [faults, List.mem_filterMap, fault?_eq_some_iff]
  constructor
  · rintro ⟨other, -, _, refused, same⟩
    obtain ⟨place, rfl⟩ := Fault.mk.inj same
    obtain rfl := Field.path_injective place
    exact refused
  · exact fun refused => ⟨field, field.mem_all, reason, refused, rfl⟩

/-! ## Validation of one field -/

theorem check_eq_ok_iff {given : Option Datum} {value : field.Value} :
    acceptance.check field given = .ok value ↔ acceptance.settle field given = .ok value := by
  rw [check]
  split <;> simp_all

theorem settle_of_no_fault {given : Option Datum} (none : acceptance.fault? field given = none) :
    ∃ value, acceptance.settle field given = .ok value := by
  rw [fault?] at none
  cases settled : acceptance.settle field given with
  | ok value => exact ⟨value, rfl⟩
  | error reason => rw [settled] at none; exact absurd none (by simp)

theorem faults_check (given : Option Datum) :
    (acceptance.check field given).faults = (acceptance.fault? field given).toList := by
  rw [check, fault?]
  cases acceptance.settle field given <;> rfl

end Acceptance

/-- Reading a field of a section settles it by what the section gives under its name. -/
theorem Field.field_eq_check (field : Field) (fields : Fields) :
    Settings.field [field.part.name] fields field.name field.default field.read =
      Acceptance.own.check field (fields.get? field.name) := by
  rw [Settings.field, Acceptance.check]
  cases fields.get? field.name with
  | none => rfl
  | some datum =>
    simp only [Acceptance.settle, Acceptance.own]
    cases field.read datum <;> rfl

/-- A level is given by its name in capitals and by nothing else, and only if it is allowed. -/
theorem level_eq_ok_iff {datum : Datum} {chosen : Log.Level} :
    level datum = .ok chosen ↔ chosen ∈ allowedLevels ∧ datum = .text chosen.upperName := by
  constructor
  · intro accepted
    unfold level at accepted
    split at accepted
    · rename_i name
      split at accepted
      · rename_i held found
        obtain rfl := Except.ok.inj accepted
        have spelled : held.upperName = name := by simpa using List.find?_some found
        exact ⟨List.mem_of_find?_eq_some found, congrArg Datum.text spelled.symm⟩
      · cases accepted
    · cases accepted
  · rintro ⟨allowed, rfl⟩
    cases chosen with
    | critical => exact absurd allowed (by decide)
    | _ => rfl

/-- The datum that spells what a field holds. -/
def Field.spelling : (field : Field) → field.Value → Datum
  | level => fun chosen => .text chosen.upperName
  | jsonOutput | parallelFree | directed | directional | allowSelfLoops => fun flag =>
    .scalar (.bool flag)

/-- Every default passes the check of its own field. -/
theorem own_accepts_default (field : Field) :
    Acceptance.own.accept field (field.spelling field.default) = .ok field.default := by
  cases field <;> rfl

/-! ## Validation of sections -/

namespace Acceptance

/-- A section of two fields from what is given for them. -/
def settleBoth {α : Type} (acceptance : Acceptance) (first second : Field)
    (combine : first.Value → second.Value → α) (given : Field → Option Datum) : Checked α :=
  Checked.both combine (acceptance.check first (given first))
    (acceptance.check second (given second))

/-- Settings from what is given for each field. -/
def settleAll (acceptance : Acceptance) (given : Field → Option Datum) : Checked Settings :=
  Checked.both (fun logging (policies : UnionPolicy × ComplementPolicy) =>
      { logging := logging, union := policies.1, complement := policies.2 })
    (acceptance.settleBoth .level .jsonOutput LoggingSettings.mk given)
    (Checked.both Prod.mk (acceptance.settleBoth .parallelFree .directed UnionPolicy.mk given)
      (acceptance.settleBoth .directional .allowSelfLoops ComplementPolicy.mk given))

variable {acceptance : Acceptance} {given : Field → Option Datum}

section Two

variable {α : Type} {first second : Field} {combine : first.Value → second.Value → α}

theorem settleBoth_eq_ok_iff {value : α} :
    acceptance.settleBoth first second combine given = .ok value ↔
      ∃ a, acceptance.settle first (given first) = .ok a ∧
        ∃ b, acceptance.settle second (given second) = .ok b ∧ combine a b = value := by
  simp only [settleBoth, Checked.both_eq_ok_iff, check_eq_ok_iff]

theorem faults_settleBoth : (acceptance.settleBoth first second combine given).faults =
    (acceptance.fault? first (given first)).toList ++
      (acceptance.fault? second (given second)).toList := by
  rw [settleBoth, Checked.faults_both, faults_check, faults_check]

end Two

theorem settleAll_eq_ok_iff {settings : Settings} : acceptance.settleAll given = .ok settings ↔
    ∀ field : Field, acceptance.settle field (given field) = .ok (field.get settings) := by
  simp only [settleAll, Checked.both_eq_ok_iff, settleBoth_eq_ok_iff]
  constructor
  · rintro ⟨_, ⟨_, level, _, jsonOutput, rfl⟩, _, ⟨_, ⟨_, parallelFree, _, directed, rfl⟩, _,
      ⟨_, directional, _, allowSelfLoops, rfl⟩, rfl⟩, rfl⟩ field
    cases field <;> assumption
  · intro settled
    exact ⟨_, ⟨_, settled .level, _, settled .jsonOutput, rfl⟩,
      _, ⟨_, ⟨_, settled .parallelFree, _, settled .directed, rfl⟩,
        _, ⟨_, settled .directional, _, settled .allowSelfLoops, rfl⟩, rfl⟩, rfl⟩

/-- Only how fields are settled matters. -/
theorem settleAll_congr {other : Field → Option Datum}
    (same : ∀ field : Field,
      acceptance.settle field (given field) = acceptance.settle field (other field)) :
    acceptance.settleAll given = acceptance.settleAll other := by
  simp only [settleAll, settleBoth, check, same]

theorem faults_settleAll (acceptance : Acceptance) (given : Field → Option Datum) :
    (acceptance.settleAll given).faults = acceptance.faults given := by
  rw [faults, List.filterMap_eq_flatMap_toList]
  simp [settleAll, Checked.faults_both, faults_settleBoth, Field.all]

/-- Where no field has a fault, every field has a value, and these make settings. -/
theorem exists_settings_of_no_faults (none : acceptance.faults given = []) :
    ∃ settings, acceptance.settleAll given = .ok settings := by
  have settled : ∀ field : Field, ∃ value, acceptance.settle field (given field) = .ok value :=
    fun field => settle_of_no_fault (List.filterMap_eq_nil_iff.mp none field field.mem_all)
  choose value settles using settled
  refine ⟨⟨⟨value .level, value .jsonOutput⟩, ⟨value .parallelFree, value .directed⟩,
    ⟨value .directional, value .allowSelfLoops⟩⟩, settleAll_eq_ok_iff.mpr fun field => ?_⟩
  cases field <;> exact settles _

/-- Settings are refused when there is a fault, and with all the faults there are. -/
theorem settleAll_eq_error_iff {found : List Fault} :
    acceptance.settleAll given = .error found ↔
      found = acceptance.faults given ∧ acceptance.faults given ≠ [] := by
  have told := faults_settleAll acceptance given
  cases outcome : acceptance.settleAll given with
  | ok settings =>
    have none : acceptance.faults given = [] := by rw [← told, outcome, Checked.faults]
    simp [none]
  | error all =>
    have every : all = acceptance.faults given := by rw [← told, outcome, Checked.faults]
    have some : acceptance.faults given ≠ [] := by
      intro none
      obtain ⟨settings, fine⟩ := exists_settings_of_no_faults none
      exact absurd (outcome.symm.trans fine) (by simp)
    simp [every, some, eq_comm]

end Acceptance

/-- The entries of a section that give its fields what is given for them, and nothing else. -/
structure Declares (part : Section) (given : Field → Option Datum)
    (held : List (String × Datum)) : Prop where
  distinct : (held.map Prod.fst).Nodup
  known : ∀ name ∈ held.map Prod.fst, ∃ field : Field, field.part = part ∧ field.name = name
  values : ∀ field : Field, field.part = part → Table.lookup field.name held = given field

namespace Declares

variable {part : Section} {field : Field} {given : Field → Option Datum}
  {held : List (String × Datum)}

/-- Entering a datum under the name of a field changes what is given for this field. -/
theorem enter (declares : Declares field.part given held) (datum : Datum) :
    Declares field.part (Function.update given field (some datum))
      (Table.enter field.name datum held) where
  distinct := Table.nodup_keys_insert (t := ⟨held⟩) declares.distinct field.name datum
  known name listed := by
    rcases Table.mem_keys_enter listed with rfl | old
    · exact ⟨field, rfl, rfl⟩
    · exact declares.known name old
  values other here := by
    rw [Table.lookup_enter]
    by_cases same : other = field
    · rw [same, Function.update_self, if_pos rfl]
    · rw [Function.update_of_ne same, if_neg fun named => same (Field.name_injective named).symm,
        declares.values other here]

/-- What is given for a field of another section does not matter. -/
theorem update_other (declares : Declares part given held) (apart : part ≠ field.part)
    (datum : Option Datum) : Declares part (Function.update given field datum) held where
  distinct := declares.distinct
  known := declares.known
  values other here := by
    have different : other ≠ field := fun same => apart (by rw [← here, same])
    rw [Function.update_of_ne different, declares.values other here]

end Declares

theorem fields_record {held : List (String × Datum)} (distinct : (held.map Prod.fst).Nodup) :
    Fields.ofEntries (held.map (Prod.map .text id)) = ⟨held⟩ := by
  have bare : (held.map (Prod.map Scalar.text id)).map (fun entry => (entry.1.bare, entry.2)) =
      held := by
    rw [List.map_map]
    exact List.map_id held
  exact (congrArg Table.ofList bare).trans (Table.ofList_eq distinct)

theorem onlyDeclared_of_known {path names : List String} {fields : Fields}
    (known : ∀ name ∈ fields.keys, name ∈ names) : onlyDeclared path names fields = .ok () := by
  have others : fields.keys.filter (fun name => name ∉ names) = [] :=
    List.filter_eq_nil_iff.mpr fun name held => by simpa using known name held
  rw [onlyDeclared, others]

theorem checkedWith_ok {α : Type} (value : Checked α) : checkedWith value (.ok ()) = value := by
  cases value <;> rfl

/-- A section consists of two fields, and its reader reads them and refuses all other names. -/
structure ReadsBoth {α : Type} (part : Section) (first second : Field)
    (combine : first.Value → second.Value → α) (reader : List String → Fields → Checked α) :
    Prop where
  first_part : first.part = part
  second_part : second.part = part
  only : ∀ field : Field, field.part = part → field = first ∨ field = second
  reads : ∀ fields, reader [part.name] fields = checkedWith
    (Checked.both combine
      (field [first.part.name] fields first.name first.default first.read)
      (field [second.part.name] fields second.name second.default second.read))
    (onlyDeclared [part.name] [first.name, second.name] fields)

theorem readLogging_readsBoth :
    ReadsBoth .logging .level .jsonOutput LoggingSettings.mk readLogging where
  first_part := rfl
  second_part := rfl
  only field := by cases field <;> decide
  reads _ := rfl

theorem readUnion_readsBoth :
    ReadsBoth .union .parallelFree .directed UnionPolicy.mk readUnion where
  first_part := rfl
  second_part := rfl
  only field := by cases field <;> decide
  reads _ := rfl

theorem readComplement_readsBoth :
    ReadsBoth .complement .directional .allowSelfLoops ComplementPolicy.mk readComplement where
  first_part := rfl
  second_part := rfl
  only field := by cases field <;> decide
  reads _ := rfl

section Reading

variable {α : Type} {part : Section} {first second : Field}
  {combine : first.Value → second.Value → α} {reader : List String → Fields → Checked α}
  {given : Field → Option Datum}

theorem ReadsBoth.read_eq (this : ReadsBoth part first second combine reader)
    {held : List (String × Datum)} (declares : Declares part given held) :
    reader [part.name] ⟨held⟩ = Acceptance.own.settleBoth first second combine given := by
  have declared : ∀ name ∈ held.map Prod.fst, name ∈ [first.name, second.name] := by
    intro name listed
    obtain ⟨field, here, rfl⟩ := declares.known name listed
    rcases this.only field here with rfl | rfl <;> simp
  rw [this.reads, onlyDeclared_of_known declared, checkedWith_ok, Field.field_eq_check,
    Field.field_eq_check, Acceptance.settleBoth, ← declares.values first this.first_part,
    ← declares.values second this.second_part]
  rfl

/-- A section settles its two fields by what it gives, or by nothing if it is not given. -/
theorem ReadsBoth.readSection_eq (this : ReadsBoth part first second combine reader)
    {fields : Fields} {held : Option (List (String × Datum))}
    (holds : fields.get? part.name = held.map Datum.record)
    (declares : Declares part given (held.getD [])) :
    readSection fields part.name (combine first.default second.default) reader =
      Acceptance.own.settleBoth first second combine given := by
  cases held with
  | none =>
    have firstUnset : none = given first := declares.values first this.first_part
    have secondUnset : none = given second := declares.values second this.second_part
    rw [readSection, holds, Acceptance.settleBoth, ← firstUnset, ← secondUnset]
    rfl
  | some held =>
    rw [readSection, holds]
    exact (congrArg (reader [part.name]) (fields_record declares.distinct)).trans
      (this.read_eq declares)

end Reading

/-- Sections, by name in lower case, that give the fields what is given for them and nothing else. -/
structure Gives (sections : List (String × Datum)) (given : Field → Option Datum) : Prop where
  distinct : (sections.map Prod.fst).Nodup
  known : ∀ name ∈ sections.map Prod.fst, ∃ part : Section, part.name = name
  parts : ∀ part : Section, ∃ held : Option (List (String × Datum)),
    Table.lookup part.name sections = held.map Datum.record ∧ Declares part given (held.getD [])

/-- Validation settles every field by what its section gives under its name. -/
theorem read_eq_settleAll {given : Field → Option Datum} {sections : List (String × Datum)}
    (gives : Gives sections given) : Settings.read ⟨sections⟩ = Acceptance.own.settleAll given := by
  have declared : ∀ name ∈ (⟨sections⟩ : Fields).keys, name ∈ ["logging", "union", "complement"] := by
    intro name listed
    obtain ⟨part, rfl⟩ := gives.known name listed
    cases part <;> decide
  choose held holds declares using gives.parts
  have found : ∀ part : Section,
      (⟨sections⟩ : Fields).get? part.name = (held part).map Datum.record := holds
  have logging := readLogging_readsBoth.readSection_eq (found .logging) (declares .logging)
  have union := readUnion_readsBoth.readSection_eq (found .union) (declares .union)
  have complement :=
    readComplement_readsBoth.readSection_eq (found .complement) (declares .complement)
  rw [Settings.read, onlyDeclared_of_known declared, checkedWith_ok]
  exact congr (congrArg _ logging) (congr (congrArg _ union) complement)

end Settings

end Multigraph
