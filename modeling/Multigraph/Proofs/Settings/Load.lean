import Mathlib.Data.Option.Basic
import Multigraph.Proofs.Settings.File

/-!
Loading settings. Every field is settled on its own: by the last variable for it, or else by what
the file gives for it, or else by its default (`Libraries.picked`). Settings are loaded with these
values if every one is acceptable to its field, and otherwise all fields whose value is refused are
reported, and no others (`load_picks`).

How a text is read and which data a field accepts does not matter for this. It is assumed of the
merging that a variable for a field gives this field its value and touches no other
(`Libraries.Merges`), and of the validation that it settles every field by what is given for it
(`Libraries.Validates`). What this library does itself is so (`own_merges`, `own_validates`).
-/
namespace Multigraph.Settings

open Datum

/-! ## What others promise -/

/-- A datum that is no scalar. -/
def Collection (datum : Datum) : Prop := ∀ s, datum ≠ .scalar s

/-- What has become of a datum by merging. Only what is no scalar may become something else, and it
does not become a scalar. -/
def MergedFrom (datum merged : Datum) : Prop :=
  merged = datum ∨ Collection datum ∧ Collection merged

/-- The merging goes field by field. -/
structure Libraries.Merges (libraries : Libraries) : Prop where
  /-- A file with known names leads to sections that tell what it gives. -/
  file_tells : ∀ {file : File} {document : Datum}, file.Known → file.InDocument document →
    ∃ sections, libraries.sections document = .ok sections ∧
      Tells sections fun field => (file.value field).map libraries.cast
  /-- What is laid over sections for a field is then told of this field, and of the others what was
  told before. -/
  lay_tells : ∀ {sections : Sections} {given : Field → Option Datum} {path : String}
    {field : Field}, Tells sections given → path.toLower = field.variable → ∀ datum,
      ∃ merged, MergedFrom datum merged ∧
        Tells (libraries.lay sections (path, datum)) (Function.update given field (some merged))

/-- Every field is validated on its own. -/
structure Libraries.Validates (libraries : Libraries) (acceptance : Acceptance) : Prop where
  validate_eq : ∀ {sections : List (String × Datum)} {given : Field → Option Datum},
    Gives sections given → libraries.validate sections = acceptance.settleAll given
  /-- No field looks into what is no scalar. -/
  collections_alike : ∀ (field : Field) {datum other : Datum}, Collection datum →
    Collection other → acceptance.accept field datum = acceptance.accept field other

theorem Collection.laidOver {held : Option Datum} {datum : Datum} (collection : Collection datum) :
    Collection (Datum.laidOver held datum) := by
  cases held with
  | none => exact collection
  | some held =>
    cases datum with
    | scalar s => exact absurd rfl (collection s)
    | list items =>
      intro s same
      cases same
    | mapping entries =>
      intro s same
      rw [Datum.laidOver, Option.map_some, Option.getD_some, Datum.merge] at same
      cases inner : held.entries? with
      | none =>
        rw [inner] at same
        cases same
      | some heldEntries =>
        rw [inner] at same
        cases same

/-- Only mappings are merged with what they are laid over. -/
theorem mergedFrom_laidOver (held : Option Datum) (datum : Datum) :
    MergedFrom datum (Datum.laidOver held datum) := by
  cases datum with
  | scalar s =>
    left
    cases held with
    | none => rfl
    | some held => exact Datum.merge_scalar held s
  | list items => exact .inr ⟨nofun, Collection.laidOver nofun⟩
  | mapping entries => exact .inr ⟨nofun, Collection.laidOver nofun⟩

theorem own_merges : Libraries.own.Merges where
  file_tells {file document} known spelled := by
    refine ⟨⟨file.headed⟩, ?_, known.tells⟩
    simp only [Libraries.own, known.ofDocument_eq spelled]
    exact congrArg Except.ok known.tells.shown_eq
  lay_tells {sections given path field} tells spells datum := by
    have laid := tells.lay spells datum
    refine ⟨_, mergedFrom_laidOver (given field) datum, ?_⟩
    simp only [Libraries.own]
    rw [laid.shown_eq]
    exact laid

theorem own_validates : Libraries.own.Validates .own where
  validate_eq gives := read_eq_settleAll gives
  collections_alike field datum other first second := by
    have refused : ∀ datum, Collection datum →
        Acceptance.own.accept field datum = Acceptance.own.accept field (.list []) := by
      intro datum collection
      cases datum with
      | scalar s => exact absurd rfl (collection s)
      | list items => cases field <;> rfl
      | mapping entries => cases field <;> rfl
    rw [refused datum first, refused other second]

/-! ## Variables -/

/-- Whether the name of a variable is that of a field, in whatever letter case. -/
def Field.isNamedBy (field : Field) (namePrefix name : String) : Bool :=
  (Variable.path? namePrefix name).map String.toLower = some field.variable

/-- All variables whose names have the prefix are for fields. -/
def KnownVariables (namePrefix : String) (environment : List (String × String)) : Prop :=
  ∀ entry ∈ environment, (Variable.path? namePrefix entry.1).isSome →
    ∃ field ∈ Field.all, field.isNamedBy namePrefix entry.1

instance (namePrefix : String) (environment : List (String × String)) :
    Decidable (KnownVariables namePrefix environment) :=
  inferInstanceAs (Decidable (∀ entry ∈ environment, _ → ∃ field ∈ Field.all, _))

namespace Libraries

/-- What the environment gives for a field, in the last variable for it. -/
def variableValue (libraries : Libraries) (namePrefix : String)
    (environment : List (String × String)) (field : Field) : Option Datum :=
  (environment.reverse.find? fun entry => field.isNamedBy namePrefix entry.1).map fun entry =>
    libraries.value entry.2

/-- What is given for a field: by the environment, or else by the file. -/
def picked (libraries : Libraries) (namePrefix : String) (environment : List (String × String))
    (file : File) (field : Field) : Option Datum :=
  (libraries.variableValue namePrefix environment field).or
    ((file.value field).map libraries.cast)

end Libraries

theorem Field.variable_injective : Function.Injective Field.variable := by
  intro field other same
  cases field <;> cases other <;> first | rfl | exact absurd same (by decide)

section Environment

variable {libraries : Libraries} {namePrefix : String} {environment : List (String × String)}

theorem variableValue_append (name value : String) (field : Field) :
    libraries.variableValue namePrefix (environment ++ [(name, value)]) field =
      if field.isNamedBy namePrefix name then some (libraries.value value)
      else libraries.variableValue namePrefix environment field := by
  rw [Libraries.variableValue, List.reverse_append, List.reverse_singleton, List.singleton_append,
    List.find?_cons]
  cases named : field.isNamedBy namePrefix name <;> rfl

/-- The variables are laid over the sections of a file one after the other. -/
theorem withEnvironment_append (file : Sections) (name value : String) :
    libraries.withEnvironment namePrefix file (environment ++ [(name, value)]) =
      match Variable.path? namePrefix name with
      | some path => libraries.lay (libraries.withEnvironment namePrefix file environment)
          (path, libraries.value value)
      | none => libraries.withEnvironment namePrefix file environment := by
  rw [Libraries.withEnvironment, List.filterMap_append, List.foldl_append]
  cases found : Variable.path? namePrefix name with
  | none => simp [Libraries.withEnvironment, found]
  | some path => simp [Libraries.withEnvironment, found]

/-- With the variables laid over them, sections tell of each field what its last variable gives, or
else what they told before. -/
theorem Libraries.Merges.tells_withEnvironment (merges : libraries.Merges) {sections : Sections}
    {given : Field → Option Datum} (tells : Tells sections given)
    (known : KnownVariables namePrefix environment) :
    ∃ overlaid, Tells (libraries.withEnvironment namePrefix sections environment) overlaid ∧
      ∀ field, Option.Rel MergedFrom
        ((libraries.variableValue namePrefix environment field).or (given field))
        (overlaid field) := by
  induction environment using List.reverseRecOn with
  | nil =>
    refine ⟨given, tells, fun field => ?_⟩
    cases given field with
    | none => exact .none
    | some datum => exact .some (.inl rfl)
  | append_singleton before entry ih =>
    obtain ⟨name, value⟩ := entry
    obtain ⟨overlaid, tellsBefore, agrees⟩ :=
      ih fun entry mem => known entry (List.mem_append_left _ mem)
    rw [withEnvironment_append]
    cases found : Variable.path? namePrefix name with
    | none =>
      refine ⟨overlaid, tellsBefore, fun field => ?_⟩
      have foreign : field.isNamedBy namePrefix name = false := by simp [Field.isNamedBy, found]
      rw [variableValue_append, foreign]
      exact agrees field
    | some path =>
      obtain ⟨field, -, named⟩ := known (name, value) (by simp) (by simp [found])
      have spells : path.toLower = field.variable := by simpa [Field.isNamedBy, found] using named
      obtain ⟨merged, from_value, tellsAfter⟩ :=
        merges.lay_tells tellsBefore spells (libraries.value value)
      refine ⟨_, tellsAfter, fun other => ?_⟩
      rw [variableValue_append]
      by_cases same : other = field
      · rw [same, Function.update_self, if_pos named]
        exact .some from_value
      · have foreign : ¬ other.isNamedBy namePrefix name := by
          simpa [Field.isNamedBy, found, spells] using
            fun alike => same (Field.variable_injective alike).symm
        rw [Function.update_of_ne same, if_neg foreign]
        exact agrees other

end Environment

/-! ## Sections as they are validated -/

theorem lowerCase_heading (part : Section) : Text.lowerCase part.heading = part.name := by
  cases part <;> decide +kernel

theorem heading_not_internal (part : Section) : part.heading ∉ internalNames := by
  cases part <;> decide

section Validation

variable {sections : Sections} {given : Field → Option Datum}

/-- The sections that are no internal matter. -/
def visible (sections : Sections) : List (String × Datum) :=
  sections.entries.filter fun entry => entry.1 ∉ internalNames

theorem lookup_visible (sections : Sections) (part : Section) :
    Table.lookup part.heading (visible sections) = sections.get? part.heading :=
  Table.lookup_filter_keys (p := fun name => name ∉ internalNames)
    (decide_eq_true (heading_not_internal part)) sections.entries

namespace Tells

theorem nodup_visible (tells : Tells sections given) :
    ((visible sections).map Prod.fst).Nodup :=
  tells.distinct.sublist (List.filter_sublist.map Prod.fst)

theorem part_of_visible (tells : Tells sections given) :
    ∀ heading ∈ (visible sections).map Prod.fst, ∃ part : Section, part.heading = heading := by
  intro heading listed
  obtain ⟨entry, shows, rfl⟩ := List.mem_map.mp listed
  obtain ⟨held, outer⟩ := List.mem_filter.mp shows
  rcases tells.known entry.1 (List.mem_map_of_mem held) with inner | known
  · exact absurd inner (of_decide_eq_true outer)
  · exact known

theorem lowerCase_inj (tells : Tells sections given) {part : Section} :
    ∀ heading ∈ (visible sections).map Prod.fst,
      Text.lowerCase heading = Text.lowerCase part.heading → heading = part.heading := by
  intro heading held same
  obtain ⟨other, rfl⟩ := tells.part_of_visible heading held
  rw [lowerCase_heading, lowerCase_heading] at same
  rw [Section.name_injective same]

/-- In lower case the headings stay distinct. -/
theorem nodup_lowerCase (tells : Tells sections given) :
    (((visible sections).map Prod.fst).map Text.lowerCase).Nodup := by
  refine tells.nodup_visible.map_on fun heading held other listed same => ?_
  obtain ⟨part, rfl⟩ := tells.part_of_visible other listed
  exact tells.lowerCase_inj heading held same

theorem named_eq (tells : Tells sections given) :
    named sections = (visible sections).map (Prod.map Text.lowerCase id) := by
  have distinct : (((visible sections).map (Prod.map Text.lowerCase id)).map Prod.fst).Nodup := by
    rw [Table.keys_map]
    exact tells.nodup_lowerCase
  exact congrArg Table.entries (Table.ofList_eq distinct)

end Tells

/-- A record with its names in lower case. -/
def loweredRecord : Datum → Datum
  | .mapping entries => .mapping (entries.map fun entry =>
      match entry.1 with
      | .text name => (.text name.toLower, entry.2)
      | _ => entry)
  | datum => datum

theorem loweredRecord_record (held : List (String × Datum)) :
    loweredRecord (record held) = record (lowered held) := by
  simp [loweredRecord, record, lowered]

theorem foldNames_texts {held : List (String × Datum)}
    (plain : ∀ name ∈ held.map Prod.fst, Text.Plain name) :
    foldNames (held.map (Prod.map .text id)) = .ok ((lowered held).map (Prod.map .text id)) := by
  induction held with
  | nil => rfl
  | cons entry rest ih =>
    simp only [List.map_cons, List.mem_cons, forall_eq_or_imp] at plain
    rw [List.map_cons, Prod.map_apply, foldNames, ih plain.2, Text.lowerCase_of_plain plain.1]
    rfl

/-- Whether an entry is a record with plain names. -/
def IsRecord (entry : String × Datum) : Prop :=
  ∃ held, entry.2 = record held ∧ ∀ name ∈ held.map Prod.fst, Text.Plain name

theorem requireSections_records {entries : List (String × Datum)}
    (records : ∀ entry ∈ entries, IsRecord entry) :
    requireSections entries = .ok (entries.map (Prod.map id loweredRecord)) := by
  induction entries with
  | nil => rfl
  | cons entry rest ih =>
    simp only [List.mem_cons, forall_eq_or_imp] at records
    obtain ⟨name, _⟩ := entry
    obtain ⟨held, rfl, plain⟩ := records.1
    have required : requireSection (name, record held) = .ok (name, record (lowered held)) := by
      rw [requireSection]
      simp only [record, entries?, foldNames_texts plain]
      rfl
    rw [requireSections, required, ih records.2, List.map_cons, Prod.map_apply,
      loweredRecord_record]
    rfl

namespace Tells

theorem isRecord (tells : Tells sections given) : ∀ entry ∈ named sections, IsRecord entry := by
  intro entry listed
  rw [tells.named_eq] at listed
  obtain ⟨⟨heading, datum⟩, held, rfl⟩ := List.mem_map.mp listed
  obtain ⟨part, rfl⟩ := tells.part_of_visible heading (List.mem_map_of_mem held)
  obtain ⟨fields, holds, declares⟩ := tells.parts part
  have found : sections.get? part.heading = some datum :=
    (lookup_visible sections part).symm.trans (Table.lookup_of_mem tells.nodup_visible held)
  rw [found] at holds
  obtain ⟨fields, rfl, same⟩ := Option.map_eq_some_iff.mp holds.symm
  exact ⟨fields, same.symm, declares.plain⟩

/-- Sections that tell what is given for the fields are all mappings, and give it under the names
of the fields. -/
theorem gives (tells : Tells sections given) :
    ∃ folded, requireSections (named sections) = .ok folded ∧ Gives folded given := by
  refine ⟨(visible sections).map (Prod.map Text.lowerCase loweredRecord), ?_, ?_, ?_, ?_⟩
  · rw [requireSections_records tells.isRecord, tells.named_eq, List.map_map]
    rfl
  · rw [Table.keys_map]
    exact tells.nodup_lowerCase
  · intro name listed
    rw [Table.keys_map] at listed
    obtain ⟨heading, held, rfl⟩ := List.mem_map.mp listed
    obtain ⟨part, rfl⟩ := tells.part_of_visible heading held
    exact ⟨part, (lowerCase_heading part).symm⟩
  · intro part
    obtain ⟨held, holds, declares⟩ := tells.parts part
    have looked : Table.lookup (Text.lowerCase part.heading)
        ((visible sections).map (Prod.map Text.lowerCase loweredRecord)) =
          (Table.lookup part.heading (visible sections)).map loweredRecord :=
      Table.lookup_map tells.lowerCase_inj loweredRecord
    rw [lowerCase_heading, lookup_visible, holds] at looked
    refine ⟨held.map lowered, looked.trans ?_, ?_⟩
    · cases held <;> simp [loweredRecord_record]
    · cases held with
      | none => exact declares
      | some fields => exact declares

end Tells

end Validation

/-! ## Outcomes -/

/-- The outcome of loading where something or nothing is given for each field. -/
def outcomeOf (acceptance : Acceptance) (given : Field → Option Datum) :
    Except LoadFailure Settings :=
  match acceptance.settleAll given with
  | .ok settings => .ok settings
  | .error found => .error (.invalid found)

/-- Whether an outcome reports a fault. -/
def Reports (outcome : Except LoadFailure Settings) (fault : Fault) : Prop :=
  ∃ found, outcome = .error (.invalid found) ∧ fault ∈ found

section Outcomes

variable {acceptance : Acceptance} {given : Field → Option Datum}

theorem outcomeOf_eq_ok_iff {settings : Settings} : outcomeOf acceptance given = .ok settings ↔
    ∀ field : Field, acceptance.settle field (given field) = .ok (field.get settings) := by
  rw [← Acceptance.settleAll_eq_ok_iff, outcomeOf]
  cases acceptance.settleAll given <;> simp

theorem outcomeOf_eq_error_iff {failure : LoadFailure} :
    outcomeOf acceptance given = .error failure ↔
      failure = .invalid (acceptance.faults given) ∧ acceptance.faults given ≠ [] := by
  rw [outcomeOf]
  cases settled : acceptance.settleAll given with
  | ok settings =>
    have none : acceptance.faults given = [] := by
      rw [← Acceptance.faults_settleAll, settled, Checked.faults]
    simp [none]
  | error found =>
    obtain ⟨rfl, some⟩ := Acceptance.settleAll_eq_error_iff.mp settled
    simp [some, eq_comm]

/-- A fault at a field is reported just when this field is refused, whatever the others are. -/
theorem reports_outcomeOf_iff {field : Field} {reason : Fault.Reason} :
    Reports (outcomeOf acceptance given) ⟨field.path, reason⟩ ↔
      acceptance.settle field (given field) = .error reason := by
  rw [← Acceptance.mem_faults_iff, Reports]
  constructor
  · rintro ⟨found, failed, listed⟩
    obtain ⟨same, -⟩ := outcomeOf_eq_error_iff.mp failed
    rwa [← LoadFailure.invalid.inj same]
  · intro listed
    exact ⟨_, outcomeOf_eq_error_iff.mpr ⟨rfl, List.ne_nil_of_mem listed⟩, listed⟩

end Outcomes

/-! ## Precedence -/

section Precedence

variable {namePrefix : String} {before after : List (String × String)} {entry : String × String}

theorem KnownVariables.without (known : KnownVariables namePrefix (before ++ entry :: after)) :
    KnownVariables namePrefix (before ++ after) := by
  intro other mem
  refine known other ?_
  rcases List.mem_append.mp mem with first | last
  · exact List.mem_append_left _ first
  · exact List.mem_append_right _ (List.mem_cons_of_mem _ last)

variable {libraries : Libraries} {acceptance : Acceptance}

/-- A variable that is not for a field does not matter to what the environment gives for it. -/
theorem variableValue_without {field : Field} (foreign : ¬ field.isNamedBy namePrefix entry.1) :
    libraries.variableValue namePrefix (before ++ entry :: after) field =
      libraries.variableValue namePrefix (before ++ after) field := by
  simp [Libraries.variableValue, List.find?_append, foreign]

/-- What has come of a datum by merging settles a field as the datum does. -/
theorem Libraries.Validates.settle_congr (validates : libraries.Validates acceptance) (field : Field)
    {given merged : Option Datum} (agrees : Option.Rel MergedFrom given merged) :
    acceptance.settle field merged = acceptance.settle field given := by
  cases agrees with
  | none => rfl
  | some related =>
    rcases related with rfl | ⟨collection, mergedCollection⟩
    · rfl
    · exact validates.collections_alike field mergedCollection collection

variable {origin : Origin} {text : String} {file : File} {environment : List (String × String)}

/-- Loading settles every field by what is picked for it. -/
theorem load_eq (merges : libraries.Merges) (validates : libraries.Validates acceptance)
    (spelled : file.InDocument (libraries.document text)) (known : file.Known)
    (variablesKnown : KnownVariables origin.namePrefix environment) :
    libraries.load origin (some text) environment =
      outcomeOf acceptance (libraries.picked origin.namePrefix environment file) := by
  obtain ⟨sections, read, tells⟩ := merges.file_tells known spelled
  obtain ⟨overlaid, tellsAll, agrees⟩ := merges.tells_withEnvironment tells variablesKnown
  obtain ⟨folded, required, gives⟩ := tellsAll.gives
  have settled : libraries.validate folded =
      acceptance.settleAll (libraries.picked origin.namePrefix environment file) :=
    (validates.validate_eq gives).trans
      (Acceptance.settleAll_congr fun field => validates.settle_congr field (agrees field))
  rw [Libraries.load, Libraries.ofSources, read]
  simp only [bind, Except.bind, required, settled, outcomeOf]
  cases acceptance.settleAll (libraries.picked origin.namePrefix environment file) <;> rfl

/-- Settings are picked field by field. Each field has the value of its variable, or else that of
the file, or else its default: loading returns the settings with these values if every one is
acceptable to its field, and otherwise reports exactly the fields whose value is refused, in the
order of declaration. So a field with an acceptable variable is not reported whatever the file gives
for it, and a variable makes no difference to the fields that it is not for. -/
theorem load_picks (merges : libraries.Merges) (validates : libraries.Validates acceptance)
    (origin : Origin) (spelled : file.InDocument (libraries.document text)) (known : file.Known)
    (variablesKnown : KnownVariables origin.namePrefix environment) :
    (∀ settings, libraries.load origin (some text) environment = .ok settings ↔ ∀ field : Field,
      acceptance.settle field (libraries.picked origin.namePrefix environment file field) =
        .ok (field.get settings)) ∧
    (∀ failure, libraries.load origin (some text) environment = .error failure ↔
      failure = .invalid (acceptance.faults (libraries.picked origin.namePrefix environment file)) ∧
        acceptance.faults (libraries.picked origin.namePrefix environment file) ≠ []) ∧
    (∀ (field : Field) (datum : Datum) (value : field.Value),
      libraries.variableValue origin.namePrefix environment field = some datum →
        acceptance.accept field datum = .ok value → ∀ reason,
          ¬ Reports (libraries.load origin (some text) environment) ⟨field.path, reason⟩) ∧
    (∀ before entry after, environment = before ++ entry :: after → ∀ field : Field,
      ¬ field.isNamedBy origin.namePrefix entry.1 →
        (∀ reason,
          Reports (libraries.load origin (some text) environment) ⟨field.path, reason⟩ ↔
            Reports (libraries.load origin (some text) (before ++ after)) ⟨field.path, reason⟩) ∧
        ∀ settings others, libraries.load origin (some text) environment = .ok settings →
          libraries.load origin (some text) (before ++ after) = .ok others →
            field.get settings = field.get others) := by
  rw [load_eq merges validates spelled known variablesKnown]
  refine ⟨fun _ => outcomeOf_eq_ok_iff, fun _ => outcomeOf_eq_error_iff, ?_, ?_⟩
  · intro field datum value given acceptable reason reported
    have settled := reports_outcomeOf_iff.mp reported
    rw [Libraries.picked, given, Option.some_or] at settled
    exact absurd (acceptable.symm.trans settled) (by simp)
  · rintro before entry after rfl field foreign
    have same : libraries.picked origin.namePrefix (before ++ entry :: after) file field =
        libraries.picked origin.namePrefix (before ++ after) file field := by
      rw [Libraries.picked, Libraries.picked, variableValue_without foreign]
    rw [load_eq merges validates spelled known variablesKnown.without]
    refine ⟨fun reason => ?_, fun settings others loaded loadedWithout => ?_⟩
    · rw [reports_outcomeOf_iff, reports_outcomeOf_iff, same]
    · have here := outcomeOf_eq_ok_iff.mp loaded field
      have there := outcomeOf_eq_ok_iff.mp loadedWithout field
      rw [same] at here
      exact Except.ok.inj (here.symm.trans there)

/-- A file and variables that meet the conditions: the level is taken from the environment, so that
the unacceptable one of the file is not reported. With other variables two flags are refused. -/
theorem load_picks_refused :
    load ⟨"settings.yaml", "GRAPHALGEBRA_"⟩
      (some "Logging:\n  LEVEL: LOUD\nunion:\n  directed: yes\n")
      [("GRAPHALGEBRA_LOGGING__level", "WARNING"), ("PATH", "/bin"),
        ("GRAPHALGEBRA_UNION__PARALLEL_FREE", "True")] =
    .ok { logging := { level := .warning }, union := { parallelFree := true, directed := true } } ∧
    load ⟨"settings.yaml", "GRAPHALGEBRA_"⟩
      (some "Logging:\n  LEVEL: LOUD\nunion:\n  directed: sideways\n")
      [("GRAPHALGEBRA_LOGGING__LEVEL", "DEBUG"), ("PATH", "/bin"),
        ("GRAPHALGEBRA_COMPLEMENT__ALLOW_SELF_LOOPS", "[2]")] =
    .error (.invalid [⟨["union", "directed"], .noFlag⟩,
      ⟨["complement", "allow_self_loops"], .notFlag⟩]) := by
  have accepted : File.InDocument
      [("Logging", [("LEVEL", .text "LOUD")]), ("union", [("directed", .text "yes")])]
      (Document.read "Logging:\n  LEVEL: LOUD\nunion:\n  directed: yes\n") := .inl rfl
  have refused : File.InDocument
      [("Logging", [("LEVEL", .text "LOUD")]), ("union", [("directed", .text "sideways")])]
      (Document.read "Logging:\n  LEVEL: LOUD\nunion:\n  directed: sideways\n") := .inl rfl
  constructor
  · refine ((load_picks own_merges own_validates ⟨"settings.yaml", "GRAPHALGEBRA_"⟩ accepted
      (by decide +kernel) (by decide +kernel)).1 _).mpr fun field => ?_
    cases field <;> decide +kernel
  · refine ((load_picks own_merges own_validates ⟨"settings.yaml", "GRAPHALGEBRA_"⟩ refused
      (by decide +kernel) (by decide +kernel)).2.1 _).mpr ⟨?_, ?_⟩
    · decide +kernel
    · decide +kernel

end Precedence

end Multigraph.Settings
