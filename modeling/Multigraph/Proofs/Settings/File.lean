import Multigraph.Proofs.Settings.Source

/-!
Settings files. The files meant here have sections of known names, and in each of them scalars other
than null for known fields; names may be in any letter case, but none is repeated (`File.Known`). What
such a file gives for a field is found by its names in lower case (`File.value`), and its document
leads to sections that tell exactly this (`File.Known.tells`).
-/
namespace Multigraph.Settings

open Datum

/-- What a file gives: sections by name, and in each of them scalars by the names of fields. -/
abbrev File := List (String × List (String × Scalar))

namespace File

/-- A section of a file as a datum. -/
def sectionDatum (fields : List (String × Scalar)) : Datum :=
  record (fields.map (Prod.map id .scalar))

/-- The datum that a file spells. -/
def datum (file : File) : Datum := record (file.map (Prod.map id sectionDatum))

/-- Whether a document holds what a file gives. A file that gives nothing may be empty. -/
def InDocument (file : File) (document : Datum) : Prop :=
  document = file.datum ∨ file = [] ∧ document = .null

/-- What a file gives for a field. -/
def value (file : File) (field : Field) : Option Scalar :=
  (Table.lookup field.part.name (lowered file)).bind fun fields =>
    Table.lookup field.name (lowered fields)

/-- The names in a section are those of its fields, none is repeated, and something is given for
each. -/
structure KnownFields (part : Section) (fields : List (String × Scalar)) : Prop where
  distinct : ((lowered fields).map Prod.fst).Nodup
  known : ∀ name ∈ (lowered fields).map Prod.fst,
    ∃ field ∈ Field.all, field.part = part ∧ field.name = name
  given : ∀ entry ∈ fields, entry.2 ≠ .null

instance (part : Section) (fields : List (String × Scalar)) : Decidable (KnownFields part fields) :=
  decidable_of_iff (_ ∧ _ ∧ _) ⟨fun ⟨distinct, known, given⟩ => ⟨distinct, known, given⟩,
    fun ⟨distinct, known, given⟩ => ⟨distinct, known, given⟩⟩

/-- The names in a file are those of sections with known fields, and none is repeated. -/
structure Known (file : File) : Prop where
  distinct : ((lowered file).map Prod.fst).Nodup
  known : ∀ entry ∈ lowered file,
    ∃ part ∈ Section.all, part.name = entry.1 ∧ KnownFields part entry.2

instance (file : File) : Decidable file.Known :=
  decidable_of_iff (_ ∧ _) ⟨fun ⟨distinct, known⟩ => ⟨distinct, known⟩, fun ⟨distinct, known⟩ =>
    ⟨distinct, known⟩⟩

theorem KnownFields.declares {part : Section} {fields : List (String × Scalar)}
    (fieldsKnown : KnownFields part fields) {file : File}
    (held : Table.lookup part.name (lowered file) = some fields) :
    Declares part (fun field => (file.value field).map .scalar)
      (lowered (fields.map (Prod.map id .scalar))) := by
  have again : lowered (fields.map (Prod.map id Datum.scalar)) =
      (lowered fields).map (Prod.map id .scalar) := by simp [lowered]
  have names : (lowered (fields.map (Prod.map id Datum.scalar))).map Prod.fst =
      (lowered fields).map Prod.fst := by rw [again, Table.keys_map, List.map_id]
  refine ⟨names ▸ fieldsKnown.distinct, fun name listed => ?_, fun field here => ?_⟩
  · obtain ⟨field, -, told⟩ := fieldsKnown.known name (names ▸ listed)
    exact ⟨field, told⟩
  · rw [value, here, held, again]
    exact Table.lookup_map (φ := id) (fun _ _ same => same) _

end File

/-! ## The sections of a document -/

theorem ofDocument_record (entries : List (String × Datum)) : ofDocument (record entries) =
    .ok ((Table.ofList (entries.map (Prod.map upperPath id))).entries.foldl lay ∅) := by
  cases entries with
  | nil => rfl
  | cons entry rest =>
    have given : (((entry :: rest).map (Prod.map Scalar.text id)).map fun given =>
        (upperPath given.1.bare, given.2)) = (entry :: rest).map (Prod.map upperPath id) := by
      rw [List.map_map]
      rfl
    rw [← given]
    rfl

theorem splitPath_heading (part : Section) :
    (splitPath part.heading.toList).map String.ofList = [part.heading] := by
  cases part <;> decide

theorem sectionName_heading (part : Section) : sectionName part.heading = part.heading := by
  cases part <;> decide +kernel

/-- Sections under distinct headings are laid beside each other. -/
theorem foldl_lay_headings {given : List (String × Datum)} (distinct : (given.map Prod.fst).Nodup)
    (known : ∀ heading ∈ given.map Prod.fst, ∃ part : Section, part.heading = heading) :
    given.foldl lay ∅ = ⟨given⟩ := by
  induction given using List.reverseRecOn with
  | nil => rfl
  | append_singleton before entry ih =>
    obtain ⟨heading, datum⟩ := entry
    simp only [List.map_append, List.map_cons, List.map_nil] at distinct known
    obtain ⟨others, -, apart⟩ := List.nodup_append.mp distinct
    have new : heading ∉ before.map Prod.fst := fun held => apart _ held _ (by simp) rfl
    obtain ⟨part, rfl⟩ := known heading (by simp)
    have absent : (⟨before⟩ : Sections).get? part.heading = none := Table.lookup_eq_none new
    rw [List.foldl_append, ih others fun name held => known name (List.mem_append_left _ held),
      List.foldl_cons, List.foldl_nil, lay_eq (splitPath_heading part), sectionName_heading, absent]
    exact congrArg Table.mk (Table.enter_fresh _ new)

namespace File

variable {file : File}

/-- The sections of a file under their headings. -/
def headed (file : File) : List (String × Datum) :=
  (lowered file).map (Prod.map String.toUpper sectionDatum)

theorem keys_headed (file : File) :
    (headed file).map Prod.fst = ((lowered file).map Prod.fst).map String.toUpper :=
  Table.keys_map _ _ _

namespace Known

theorem part_of_name (known : file.Known) :
    ∀ name ∈ (lowered file).map Prod.fst, ∃ part : Section, part.name = name := by
  intro name listed
  obtain ⟨entry, mem, rfl⟩ := List.mem_map.mp listed
  obtain ⟨part, -, spells, -⟩ := known.known entry mem
  exact ⟨part, spells⟩

theorem toUpper_inj (known : file.Known) {part : Section} :
    ∀ name ∈ (lowered file).map Prod.fst, name.toUpper = part.name.toUpper → name = part.name := by
  intro name listed same
  obtain ⟨other, rfl⟩ := known.part_of_name name listed
  rw [Section.toUpper_name, Section.toUpper_name] at same
  rw [Section.heading_injective same]

theorem nodup_headed (known : file.Known) : ((headed file).map Prod.fst).Nodup := by
  rw [keys_headed]
  refine known.distinct.map_on fun name listed other held same => ?_
  obtain ⟨part, rfl⟩ := known.part_of_name other held
  exact known.toUpper_inj name listed same

theorem headings_known (known : file.Known) :
    ∀ heading ∈ (headed file).map Prod.fst, ∃ part : Section, part.heading = heading := by
  intro heading listed
  rw [keys_headed] at listed
  obtain ⟨name, held, rfl⟩ := List.mem_map.mp listed
  obtain ⟨part, rfl⟩ := known.part_of_name name held
  exact ⟨part, part.toUpper_name.symm⟩

theorem upperPath_eq (known : file.Known) :
    (file.map (Prod.map id sectionDatum)).map (Prod.map upperPath id) = headed file := by
  rw [headed, lowered, List.map_map, List.map_map]
  refine List.map_congr_left fun entry mem => ?_
  have listed : Prod.map String.toLower id entry ∈ lowered file := List.mem_map_of_mem mem
  obtain ⟨part, -, named, -⟩ := known.known _ listed
  have spells : entry.1.toLower = part.name := named.symm
  change (upperPath entry.1, sectionDatum entry.2) =
    (entry.1.toLower.toUpper, sectionDatum entry.2)
  rw [upperPath_of_section spells, spells, Section.toUpper_name]

/-- The document of a file leads to its sections under their headings. -/
theorem ofDocument_eq (known : file.Known) {document : Datum} (holds : file.InDocument document) :
    ofDocument document = .ok ⟨headed file⟩ := by
  rcases holds with rfl | ⟨rfl, rfl⟩
  · rw [datum, ofDocument_record, known.upperPath_eq, Table.ofList_eq known.nodup_headed,
      foldl_lay_headings known.nodup_headed known.headings_known]
  · rfl

/-- The sections of a file tell what the file gives. -/
theorem tells (known : file.Known) :
    Tells ⟨headed file⟩ fun field => (file.value field).map .scalar := by
  refine ⟨known.nodup_headed, fun heading held => .inr (known.headings_known heading held),
    fun part => ?_⟩
  refine ⟨(Table.lookup part.name (lowered file)).map (List.map (Prod.map id .scalar)), ?_, ?_⟩
  · rw [Table.get?, headed, ← part.toUpper_name, Table.lookup_map known.toUpper_inj, Option.map_map]
    rfl
  · cases held : Table.lookup part.name (lowered file) with
    | none =>
      refine ⟨List.nodup_nil, fun _ listed => absurd listed List.not_mem_nil, fun field here => ?_⟩
      rw [value, here, held]
      rfl
    | some fields =>
      obtain ⟨other, -, spells, fieldsKnown⟩ := known.known _ (Table.mem_of_lookup held)
      obtain rfl := Section.name_injective spells
      exact fieldsKnown.declares held

end Known

end File

end Multigraph.Settings
