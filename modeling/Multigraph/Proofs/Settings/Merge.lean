import Mathlib.Data.List.Find
import Multigraph.Proofs.Table
import Multigraph.Proofs.Text.Case

/-!
Merging of records, the mappings from names to data. A record that gives one name is merged with
another by an overlay: the name finds the entry that is spelled like it up to letter case and is
merged with what this entry holds, or else it is a new entry (`merge_record`). Seen with all names
in lower case, an overlay enters the lower case of the name (`lowered_overlay`). For this the names
have to be plain, and no two of them may be the same up to letter case.
-/
namespace Multigraph

/-- Entries with their names in lower case. -/
def lowered {α : Type} (entries : List (String × α)) : List (String × α) :=
  entries.map (Prod.map String.toLower id)

namespace Datum

/-- A mapping from names to data. -/
def record (held : List (String × Datum)) : Datum := mapping (held.map (Prod.map .text id))

/-- What replaces a datum is merged with it in that mappings are merged entry by entry. -/
def laidOver (held : Option Datum) (datum : Datum) : Datum := (held.map (·.merge datum)).getD datum

/-- The name under which entries hold a name in whatever letter case, or else the name itself. -/
def spelledIn (held : List (String × Datum)) (name : String) : String :=
  ((held.find? fun entry => entry.1.toLower = name.toLower).map Prod.fst).getD name

/-- Entries after a datum is laid over what they give for a name in whatever letter case. -/
def overlay (held : List (String × Datum)) (name : String) (datum : Datum) :
    List (String × Datum) :=
  Table.enter (spelledIn held name) (laidOver (Table.lookup (spelledIn held name) held) datum) held

variable {held : List (String × Datum)} {name : String}

theorem toLower_spelledIn (held : List (String × Datum)) (name : String) :
    (spelledIn held name).toLower = name.toLower := by
  rw [spelledIn]
  cases found : held.find? fun entry => entry.1.toLower = name.toLower with
  | none => rfl
  | some entry => simpa using List.find?_some found

/-- Where names are the same up to letter case only once, the spelling of a name is the only one. -/
theorem eq_spelledIn (distinct : ((lowered held).map Prod.fst).Nodup) :
    ∀ other ∈ held.map Prod.fst, other.toLower = name.toLower → other = spelledIn held name := by
  intro other listed same
  obtain ⟨entry, mem, rfl⟩ := List.mem_map.mp listed
  rw [lowered, List.map_map] at distinct
  cases found : held.find? fun entry => entry.1.toLower = name.toLower with
  | none => exact absurd (List.find?_eq_none.mp found entry mem) (by simpa using same)
  | some first =>
    have alike : first.1.toLower = name.toLower := by simpa using List.find?_some found
    have one : entry = first :=
      List.inj_on_of_nodup_map distinct mem (List.mem_of_find?_eq_some found)
        (same.trans alike.symm)
    rw [spelledIn, found, one, Option.map_some, Option.getD_some]

/-- With all names in lower case, an overlay enters the lower case of its name. -/
theorem lowered_overlay (distinct : ((lowered held).map Prod.fst).Nodup) (datum : Datum) :
    lowered (overlay held name datum) = Table.enter name.toLower
      (laidOver (Table.lookup name.toLower (lowered held)) datum) (lowered held) := by
  have alone : ∀ other ∈ held.map Prod.fst, other.toLower = (spelledIn held name).toLower →
      other = spelledIn held name := by
    rw [toLower_spelledIn]
    exact eq_spelledIn distinct
  have looked : Table.lookup name.toLower (lowered held) =
      Table.lookup (spelledIn held name) held := by
    rw [← toLower_spelledIn held name, lowered, Table.lookup_map alone id, Option.map_id_apply]
  rw [looked, ← toLower_spelledIn held name]
  exact (Table.enter_map alone id _).symm

/-! ## Names of records -/

theorem finds_of_plain {other : String} (plain : Text.Plain name) (heldPlain : Text.Plain other) :
    finds name other = (other.toLower = name.toLower : Bool) := by
  rw [finds, Text.joinedLower_of_plain heldPlain, Text.lowerCase_of_plain heldPlain,
    Text.lowerCase_of_plain plain, Bool.or_self]

/-- A name of a record is looked for up to letter case. -/
theorem heldName_record (plain : Text.Plain name)
    (heldPlain : ∀ other ∈ held.map Prod.fst, Text.Plain other)
    (distinct : ((lowered held).map Prod.fst).Nodup) :
    heldName (held.map (Prod.map .text id)) (.text name) = .text (spelledIn held name) := by
  rw [heldName]
  split
  · rename_i present
    have listed : name ∈ held.map Prod.fst := by simpa using present
    rw [← eq_spelledIn distinct name listed rfl]
  · have sought : ∀ entry ∈ held,
        finds name entry.1 = (entry.1.toLower = name.toLower : Bool) := fun entry mem =>
      finds_of_plain plain (heldPlain entry.1 (List.mem_map_of_mem mem))
    rw [List.find?_map, spelledIn, ← List.find?_congr sought]
    change ((Option.map (Prod.map Scalar.text id)
      (held.find? fun entry => finds name entry.1)).map Prod.fst).getD (.text name) = _
    cases held.find? fun entry => finds name entry.1 <;> rfl

/-- A record of one entry is merged with a record by an overlay. -/
theorem merge_record (plain : Text.Plain name)
    (heldPlain : ∀ other ∈ held.map Prod.fst, Text.Plain other)
    (distinct : ((lowered held).map Prod.fst).Nodup) (datum : Datum) :
    (record held).merge (record [(name, datum)]) = record (overlay held name datum) := by
  have alone : ∀ other ∈ held.map Prod.fst, Scalar.text other = .text (spelledIn held name) →
      other = spelledIn held name := fun _ _ same => Scalar.text.inj same
  have looked := Table.lookup_map alone id
  have entered := Table.enter_map alone id
    (laidOver (Table.lookup (spelledIn held name) held) datum)
  simp only [record, List.map_cons, List.map_nil, Prod.map_apply, id_eq, merge, entries?,
    mergeEntries, heldName_record plain heldPlain distinct, looked, Option.map_id_apply]
  refine congrArg mapping (Eq.trans ?_ entered)
  cases Table.lookup (spelledIn held name) held <;> rfl

/-- A record of one entry is laid over a record, if there is one, by an overlay. -/
theorem laidOver_record {held : Option (List (String × Datum))} (plain : Text.Plain name)
    (heldPlain : ∀ other ∈ (held.getD []).map Prod.fst, Text.Plain other)
    (distinct : ((lowered (held.getD [])).map Prod.fst).Nodup) (datum : Datum) :
    laidOver (held.map record) (record [(name, datum)]) =
      record (overlay (held.getD []) name datum) := by
  cases held with
  | none => rfl
  | some held => exact merge_record plain heldPlain distinct datum

end Datum

end Multigraph
