/-!
Tables that remember when a key was first entered. Entering a present key replaces its value in
place, and entering a new key appends it, so the order of the entries is the order in which the
present keys appeared. The lemmas say what every operation does to a lookup and to the keys.
-/
namespace Multigraph

/-- An association of values to keys, in order of first entry. -/
structure Table (κ α : Type) where
  entries : List (κ × α) := []
  deriving DecidableEq

namespace Table

variable {κ α β : Type}

instance : EmptyCollection (Table κ α) := ⟨⟨[]⟩⟩

instance : Inhabited (Table κ α) := ⟨∅⟩

/-- The keys in order of first entry. -/
def keys (t : Table κ α) : List κ := t.entries.map Prod.fst

/-- The number of entries. -/
def size (t : Table κ α) : Nat := t.entries.length

variable [DecidableEq κ]

/-- Looks a key up in a list of entries. -/
def lookup (key : κ) : List (κ × α) → Option α
  | [] => none
  | (k, a) :: rest => if k = key then some a else lookup key rest

/-- Replaces the value of a present key where it stands, or appends a new entry. -/
def enter (key : κ) (value : α) : List (κ × α) → List (κ × α)
  | [] => [(key, value)]
  | (k, a) :: rest => if k = key then (k, value) :: rest else (k, a) :: enter key value rest

/-- The value of a key. -/
def get? (t : Table κ α) (key : κ) : Option α := lookup key t.entries

/-- Whether a key is present. -/
def contains (t : Table κ α) (key : κ) : Bool := (t.get? key).isSome

/-- Enters a value under a key. -/
def insert (t : Table κ α) (key : κ) (value : α) : Table κ α := ⟨enter key value t.entries⟩

/-- Removes a key with its value. -/
def erase (t : Table κ α) (key : κ) : Table κ α :=
  ⟨t.entries.filter fun entry => entry.1 ≠ key⟩

/-- Enters a list of pairs one after the other. -/
def insertAll (t : Table κ α) (pairs : List (κ × α)) : Table κ α :=
  pairs.foldl (fun t pair => t.insert pair.1 pair.2) t

/-- The table of a list of pairs. -/
def ofList (pairs : List (κ × α)) : Table κ α := insertAll ∅ pairs

/-- Whether two tables hold the same values under the same keys, in whatever order. -/
def sameEntries [DecidableEq α] (t u : Table κ α) : Bool :=
  t.size = u.size && t.entries.all fun entry => u.get? entry.1 = some entry.2

@[simp] theorem get?_empty (key : κ) : (∅ : Table κ α).get? key = none := rfl

theorem lookup_enter (key other : κ) (value : α) (entries : List (κ × α)) :
    lookup other (enter key value entries) =
      if key = other then some value else lookup other entries := by
  induction entries with
  | nil => simp [enter, lookup]
  | cons entry rest ih =>
    obtain ⟨k, a⟩ := entry
    by_cases held : k = key
    · subst held
      by_cases same : k = other <;> simp [enter, lookup, same]
    · by_cases same : k = other
      · subst same
        simp [enter, lookup, held, Ne.symm held]
      · simp [enter, lookup, held, same, ih]

/-- A lookup after an entry sees the new value under its key and nothing new elsewhere. -/
theorem get?_insert (t : Table κ α) (key other : κ) (value : α) :
    (t.insert key value).get? other = if key = other then some value else t.get? other :=
  lookup_enter key other value t.entries

theorem lookup_filter (key other : κ) (entries : List (κ × α)) :
    lookup other (entries.filter fun entry => entry.1 ≠ key) =
      if key = other then none else lookup other entries := by
  induction entries with
  | nil => simp [lookup]
  | cons entry rest ih =>
    obtain ⟨k, a⟩ := entry
    by_cases held : k = key
    · subst held
      by_cases same : k = other <;> simp_all [lookup]
    · by_cases same : k = other
      · subst same
        simp [lookup, held, Ne.symm held]
      · simp_all [lookup]

/-- A removed key is absent, and every other key keeps its value. -/
theorem get?_erase (t : Table κ α) (key other : κ) :
    (t.erase key).get? other = if key = other then none else t.get? other :=
  lookup_filter key other t.entries

theorem enter_keys (key : κ) (value : α) (entries : List (κ × α)) :
    (enter key value entries).map Prod.fst =
      if key ∈ entries.map Prod.fst then entries.map Prod.fst
      else entries.map Prod.fst ++ [key] := by
  induction entries with
  | nil => simp [enter]
  | cons entry rest ih =>
    obtain ⟨k, a⟩ := entry
    by_cases held : k = key
    · simp [enter, held]
    · have apart : ¬ key = k := fun h => held h.symm
      by_cases later : key ∈ rest.map Prod.fst <;> simp_all [enter]

/-- A present key keeps its place and a new key goes last. -/
theorem keys_insert (t : Table κ α) (key : κ) (value : α) :
    (t.insert key value).keys = if key ∈ t.keys then t.keys else t.keys ++ [key] :=
  enter_keys key value t.entries

end Table

end Multigraph
