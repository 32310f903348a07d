import Multigraph.Proofs.Settings.Field
import Multigraph.Settings.Load

/-!
Sources of settings. Whatever letter case a file or a variable uses, the name of a section leads to
one heading and the name of a field to one entry under it. So the sections that have been laid over
each other tell, field by field, what is given (`Tells`), and a variable that is laid over them
changes what they tell about its own field and about no other (`Tells.lay`).
-/
namespace Multigraph.Settings

open Datum

/-! ## Names in any letter case -/

/-- The name of a section in upper case, under which sources hold it. -/
def Section.heading : Section → String
  | logging => "LOGGING"
  | union => "UNION"
  | complement => "COMPLEMENT"

theorem Section.heading_injective : Function.Injective Section.heading := by
  intro part other same
  cases part <;> cases other <;> first | rfl | exact absurd same (by decide)

theorem Section.toUpper_name (part : Section) : part.name.toUpper = part.heading := by
  cases part <;> decide +kernel

/-- The path of a field as a variable names it. -/
def Field.variable (field : Field) : String := field.part.name ++ "__" ++ field.name

section Names

variable {name : String} {part : Section} {field : Field}

theorem plain_of_section (spells : name.toLower = part.name) : Text.Plain name :=
  Text.plain_of_toLower (spells ▸ by cases part <;> decide)

theorem plain_of_field (spells : name.toLower = field.name) : Text.Plain name :=
  Text.plain_of_toLower (spells ▸ by cases field <;> decide)

theorem toUpper_of_section (spells : name.toLower = part.name) : name.toUpper = part.heading := by
  rw [← Text.toUpper_toLower (plain_of_section spells), spells, Section.toUpper_name]

theorem sectionName_of_section (spells : name.toLower = part.name) :
    sectionName name = part.heading := by
  have plain := plain_of_section spells
  rw [sectionName, Text.strip_of_plain plain, String.ofList_toList, Text.upperCase_of_plain plain,
    toUpper_of_section spells]

theorem upperStart_of_not_mem {text : List Char} (unmarked : '_' ∉ text) :
    upperStart text = (text, []) := by
  fun_induction upperStart text with
  | case1 => rfl
  | case2 => simp at unmarked
  | case3 c rest _ ih => simp [ih (fun later => unmarked (List.mem_cons_of_mem c later))]

theorem upperPath_of_section (spells : name.toLower = part.name) :
    upperPath name = part.heading := by
  have unmarked : '_' ∉ name.toList := by
    intro mark
    have lower : '_' ∈ name.toLower.toList := by
      rw [Text.toList_toLower]
      exact List.mem_map_of_mem (f := Char.toLower) mark
    rw [spells] at lower
    cases part <;> exact absurd lower (by decide)
  rw [upperPath, upperStart_of_not_mem unmarked]
  simp only [String.ofList_toList, String.ofList_nil, String.append_empty]
  rw [Text.upperCase_of_plain (plain_of_section spells), toUpper_of_section spells]

end Names

/-! ## Paths -/

/-- What does not begin with the two underscores between names does not do so in lower case. -/
theorem single_toLower {c : Char} {rest : List Char}
    (single : ∀ later, c = '_' → rest = '_' :: later → False) :
    ∀ later, c.toLower = '_' → rest.map Char.toLower = '_' :: later → False := by
  intro later first second
  cases rest with
  | nil => exact absurd second (by simp)
  | cons next rest =>
    have next_eq : next = '_' :=
      (Text.char_toLower_eq_mark_iff (.inl rfl)).mp (List.cons.inj second).1
    exact single rest ((Text.char_toLower_eq_mark_iff (.inl rfl)).mp first) (by rw [next_eq])

/-- The names on a path change case with it. -/
theorem splitPath_toLower (path : List Char) :
    splitPath (path.map Char.toLower) = (splitPath path).map (List.map Char.toLower) := by
  fun_induction splitPath path with
  | case1 => rfl
  | case2 rest ih => exact congrArg ([] :: ·) ih
  | case3 rest _ ih => exact congrArg ([] :: ·) ih
  | case4 c rest single name part parts split ih =>
    have inside : c.toLower ≠ '.' := fun point =>
      name ((Text.char_toLower_eq_mark_iff (.inr rfl)).mp point)
    rw [List.map_cons, splitPath.eq_3 _ _ (single_toLower single), if_neg inside, ih, split]
    rfl
  | case5 c rest single name split ih =>
    have inside : c.toLower ≠ '.' := fun point =>
      name ((Text.char_toLower_eq_mark_iff (.inr rfl)).mp point)
    rw [List.map_cons, splitPath.eq_3 _ _ (single_toLower single), if_neg inside, ih, split]
    rfl

/-- The path of a field in whatever letter case has two names on it, the section's and the
field's. -/
theorem splitPath_of_variable {field : Field} {path : String}
    (spells : path.toLower = field.variable) : ∃ first second : String,
      (splitPath path.toList).map String.ofList = [first, second] ∧
        first.toLower = field.part.name ∧ second.toLower = field.name := by
  have split : (splitPath path.toList).map (List.map Char.toLower) =
      [field.part.name.toList, field.name.toList] := by
    rw [← splitPath_toLower, ← Text.toList_toLower, spells]
    cases field <;> decide
  obtain ⟨first, rest, names, here, later⟩ := List.map_eq_cons_iff.mp split
  obtain ⟨second, none, rfl, there, nothing⟩ := List.map_eq_cons_iff.mp later
  obtain rfl := List.map_eq_nil_iff.mp nothing
  refine ⟨String.ofList first, String.ofList second, by rw [names]; rfl, ?_, ?_⟩
  · refine String.toList_injective ?_
    rw [Text.toList_toLower, String.toList_ofList, here]
  · refine String.toList_injective ?_
    rw [Text.toList_toLower, String.toList_ofList, there]

/-! ## Laying variables over sections -/

/-- What is held for the sections tells what is given for each field, under names in whatever
letter case. Internal matters may be held beside it. -/
structure Tells (sections : Sections) (given : Field → Option Datum) : Prop where
  distinct : sections.keys.Nodup
  known : ∀ heading ∈ sections.keys,
    heading ∈ internalNames ∨ ∃ part : Section, part.heading = heading
  parts : ∀ part : Section, ∃ held : Option (List (String × Datum)),
    sections.get? part.heading = held.map record ∧ Declares part given (lowered (held.getD []))

theorem Declares.plain {part : Section} {given : Field → Option Datum}
    {held : List (String × Datum)} (declares : Declares part given (lowered held)) :
    ∀ name ∈ held.map Prod.fst, Text.Plain name := by
  intro name listed
  obtain ⟨entry, mem, rfl⟩ := List.mem_map.mp listed
  have lower : entry.1.toLower ∈ (lowered held).map Prod.fst :=
    List.mem_map_of_mem (List.mem_map_of_mem mem)
  obtain ⟨field, -, spells⟩ := declares.known _ lower
  exact plain_of_field spells.symm

/-- What is given for a path is laid over the section that its first name leads to. -/
theorem lay_eq {sections : Sections} {path name : String} {names : List String}
    (split : (splitPath path.toList).map String.ofList = name :: names) (datum : Datum) :
    lay sections (path, datum) = sections.insert (sectionName name)
      (laidOver (sections.get? (sectionName name)) (nest datum names)) := by
  rw [lay, split]
  rfl

/-- A variable for a field changes what the sections tell about this field, and about no other. -/
theorem Tells.lay {sections : Sections} {given : Field → Option Datum}
    (tells : Tells sections given) {path : String} {field : Field}
    (spells : path.toLower = field.variable) (datum : Datum) :
    Tells (Settings.lay sections (path, datum))
      (Function.update given field (some (laidOver (given field) datum))) := by
  obtain ⟨first, second, split, firstSpells, secondSpells⟩ := splitPath_of_variable spells
  rw [lay_eq split, sectionName_of_section firstSpells]
  refine ⟨Table.nodup_keys_insert tells.distinct _ _, ?_, fun part => ?_⟩
  · intro heading listed
    rcases Table.mem_keys_enter listed with rfl | old
    · exact .inr ⟨field.part, rfl⟩
    · exact tells.known heading old
  · rw [Table.get?_insert]
    obtain ⟨held, holds, declares⟩ := tells.parts part
    by_cases same : part = field.part
    · subst same
      refine ⟨some (overlay (held.getD []) second datum), ?_, ?_⟩
      · rw [if_pos rfl, holds]
        exact congrArg some
          (laidOver_record (plain_of_field secondSpells) declares.plain declares.distinct datum)
      · rw [Option.getD_some, lowered_overlay declares.distinct, secondSpells,
          declares.values field rfl]
        exact declares.enter _
    · refine ⟨held, ?_, declares.update_other same _⟩
      rw [if_neg fun heading => same (Section.heading_injective heading).symm, holds]

/-- Nothing of it is hidden. -/
theorem Tells.shown_eq {sections : Sections} {given : Field → Option Datum}
    (tells : Tells sections given) : shown sections = sections := by
  have apart : ∀ name ∈ internalNames, name ∉ hiddenNames := by decide
  have all : sections.entries.filter (fun entry => entry.1 ∉ hiddenNames) = sections.entries := by
    refine List.filter_eq_self.mpr fun entry held => decide_eq_true ?_
    rcases tells.known entry.1 (List.mem_map_of_mem held) with inner | ⟨part, heading⟩
    · exact apart entry.1 inner
    · rw [← heading]
      cases part <;> decide
  rw [shown, all]

end Multigraph.Settings
