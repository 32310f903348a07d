import Multigraph.Datum
import Multigraph.Table
import Multigraph.Text.Case

/-!
Merging of data. A mapping that is laid over a mapping is merged with it entry by entry; any other
datum replaces what it is laid over. A name finds its entry in any letter case, and with underscores
for spaces. The entries that were there keep their names and places, and new ones follow.
-/
namespace Multigraph.Datum

/-- A text in lower case, with underscores for its spaces. -/
def joinedLower (s : String) : String :=
  Text.lowerCase (String.ofList (s.toList.map fun c => if c = ' ' then '_' else c))

/-- Whether a name finds an entry of another name. -/
def finds (name held : String) : Bool :=
  Text.lowerCase held = Text.lowerCase name || joinedLower held = Text.lowerCase name

/-- The name under which an entry for a name is held, or else the name itself. -/
def heldName (held : List (Scalar × Datum)) (name : Scalar) : Scalar :=
  match name with
  | .text s =>
    if (held.map Prod.fst).contains name then name
    else
      let found := held.find? fun entry =>
        match entry.1 with
        | .text other => finds s other
        | _ => false
      (found.map Prod.fst).getD name
  | _ => name

mutual

/-- A datum after another one is laid over it. -/
def merge (held : Datum) : Datum → Datum
  | mapping entries =>
    match held.entries? with
    | some heldEntries => mapping (mergeEntries heldEntries heldEntries entries)
    | none => mapping entries
  | datum => datum

/-- Entries after others are laid over them, one after the other; the names are those that were
held before. -/
def mergeEntries (before merged : List (Scalar × Datum)) :
    List (Scalar × Datum) → List (Scalar × Datum)
  | [] => merged
  | (name, datum) :: rest =>
    let name := heldName before name
    let datum := match Table.lookup name before with
      | some held => merge held datum
      | none => datum
    mergeEntries before (Table.enter name datum merged) rest

end

/-- What is no mapping replaces what it is laid over. -/
theorem merge_scalar (held : Datum) (s : Scalar) : merge held (scalar s) = scalar s := by
  simp [merge]

/-- Nothing laid over a mapping leaves it as it is. -/
theorem merge_empty (entries : List (Scalar × Datum)) :
    merge (mapping entries) (mapping []) = mapping entries := by
  simp [merge, mergeEntries, entries?]

end Multigraph.Datum
