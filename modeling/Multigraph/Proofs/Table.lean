import Mathlib.Data.List.Forall2
import Mathlib.Data.List.Induction
import Mathlib.Data.List.Nodup
import Multigraph.Table

/-!
Tables as lists of entries. A new key goes to the end, so a list of entries without a repeated key
is the table that is made of it (`ofList_eq`). Where keys are repeated, a key has the place of its
first entry and the value of its last (`keys_ofList`, `get?_ofList`). Entries can be found and made
under new names, as long as no two keys are given the same one (`lookup_map`, `enter_map`). Two
tables match when their entries are related, place by place; matching tables answer related keys
with related values, and they match again when related entries are made (`Matches.get?`,
`Matches.insert`).
-/
namespace Multigraph

/-- Pairs with related first and related second components. -/
def Both {α β γ δ : Type} (R : α → β → Prop) (S : γ → δ → Prop) (pair : α × γ) (other : β × δ) :
    Prop :=
  R pair.1 other.1 ∧ S pair.2 other.2

theorem Both.biUnique {α β γ δ : Type} {R : α → β → Prop} {S : γ → δ → Prop}
    (first : Relator.BiUnique R) (second : Relator.BiUnique S) :
    Relator.BiUnique (Both R S) := by
  constructor
  · rintro ⟨a, b⟩ ⟨c, d⟩ ⟨x, y⟩ ⟨here, there⟩ ⟨here', there'⟩
    exact Prod.ext (first.1 here here') (second.1 there there')
  · rintro ⟨a, b⟩ ⟨c, d⟩ ⟨x, y⟩ ⟨here, there⟩ ⟨here', there'⟩
    exact Prod.ext (first.2 here here') (second.2 there there')

namespace Table

variable {κ ι α β : Type} {K : κ → ι → Prop} {V : α → β → Prop} {t : Table κ α} {u : Table ι β}

/-- The entries of two tables are related, place by place. -/
def Matches (K : κ → ι → Prop) (V : α → β → Prop) (t : Table κ α) (u : Table ι β) : Prop :=
  List.Forall₂ (Both K V) t.entries u.entries

theorem Matches.size_eq (same : Matches K V t u) : t.size = u.size := List.Forall₂.length_eq same

theorem keys_map (φ : κ → ι) (ψ : α → β) (entries : List (κ × α)) :
    (entries.map (Prod.map φ ψ)).map Prod.fst = (entries.map Prod.fst).map φ := by
  rw [List.map_map, List.map_map]
  rfl

variable [DecidableEq κ]

theorem enter_fresh {key : κ} {entries : List (κ × α)} (value : α)
    (new : key ∉ entries.map Prod.fst) : enter key value entries = entries ++ [(key, value)] := by
  induction entries with
  | nil => rfl
  | cons entry rest ih =>
    obtain ⟨k, a⟩ := entry
    simp only [List.map_cons, List.mem_cons, not_or] at new
    rw [enter, if_neg (Ne.symm new.1), ih new.2, List.cons_append]

/-- Entering pairs with new and distinct keys appends them. -/
theorem entries_insertAll {t : Table κ α} {pairs : List (κ × α)}
    (distinct : (t.entries.map Prod.fst ++ pairs.map Prod.fst).Nodup) :
    (t.insertAll pairs).entries = t.entries ++ pairs := by
  induction pairs generalizing t with
  | nil => exact (List.append_nil _).symm
  | cons pair rest ih =>
    obtain ⟨key, value⟩ := pair
    have new : key ∉ t.entries.map Prod.fst := fun held =>
      (List.nodup_append.mp distinct).2.2 key held key (by simp) rfl
    have appended : (t.insert key value).entries = t.entries ++ [(key, value)] :=
      enter_fresh value new
    have onward : ((t.insert key value).entries.map Prod.fst ++ rest.map Prod.fst).Nodup := by
      simpa [appended] using distinct
    have step := ih onward
    rw [appended, List.append_assoc, List.singleton_append] at step
    exact step

/-- Pairs with distinct keys are the entries of their table. -/
theorem ofList_eq {pairs : List (κ × α)} (distinct : (pairs.map Prod.fst).Nodup) :
    ofList pairs = ⟨pairs⟩ := by
  have entered : (ofList pairs).entries = [] ++ pairs :=
    entries_insertAll (t := (∅ : Table κ α)) distinct
  exact congrArg Table.mk entered

theorem lookup_eq_none {key : κ} {entries : List (κ × α)} (absent : key ∉ entries.map Prod.fst) :
    lookup key entries = none := by
  induction entries with
  | nil => rfl
  | cons entry rest ih =>
    obtain ⟨k, a⟩ := entry
    simp only [List.map_cons, List.mem_cons, not_or] at absent
    rw [lookup, if_neg (Ne.symm absent.1), ih absent.2]

/-- Of two lists of entries the first is searched first. -/
theorem lookup_append (key : κ) (entries more : List (κ × α)) :
    lookup key (entries ++ more) = (lookup key entries).or (lookup key more) := by
  induction entries with
  | nil => rfl
  | cons entry rest ih =>
    obtain ⟨k, a⟩ := entry
    by_cases same : k = key
    · simp [lookup, same]
    · simp [lookup, same, ih]

/-- What is found stands among the entries. -/
theorem mem_of_lookup {key : κ} {value : α} {entries : List (κ × α)}
    (found : lookup key entries = some value) : (key, value) ∈ entries := by
  induction entries with
  | nil => exact absurd found (by simp [lookup])
  | cons entry rest ih =>
    obtain ⟨k, a⟩ := entry
    rw [lookup] at found
    split at found
    · rename_i same
      rw [same, Option.some.inj found]
      exact List.mem_cons_self ..
    · exact List.mem_cons_of_mem _ (ih found)

/-- What stands among entries with distinct keys is found. -/
theorem lookup_of_mem {key : κ} {value : α} {entries : List (κ × α)}
    (distinct : (entries.map Prod.fst).Nodup) (mem : (key, value) ∈ entries) :
    lookup key entries = some value := by
  induction entries with
  | nil => exact absurd mem List.not_mem_nil
  | cons entry rest ih =>
    obtain ⟨k, a⟩ := entry
    obtain ⟨new, others⟩ := List.nodup_cons.mp distinct
    rw [lookup]
    rcases List.mem_cons.mp mem with same | later
    · obtain ⟨rfl, rfl⟩ := Prod.mk.inj same
      exact if_pos rfl
    · have apart : k ≠ key := by
        rintro rfl
        exact new (List.mem_map.mpr ⟨_, later, rfl⟩)
      rw [if_neg apart, ih others later]

/-- A key that stays is looked up among the entries that stay. -/
theorem lookup_filter_keys {p : κ → Bool} {key : κ} (stays : p key = true)
    (entries : List (κ × α)) :
    lookup key (entries.filter fun entry => p entry.1) = lookup key entries := by
  induction entries with
  | nil => rfl
  | cons entry rest ih =>
    obtain ⟨k, a⟩ := entry
    by_cases same : k = key
    · subst same
      simp [lookup, stays]
    · cases kept : p k with
      | true => simp [lookup, kept, same, ih]
      | false => simp [lookup, kept, same, ih]

/-- The keys after an entry are the one that was entered and those that were there. -/
theorem mem_keys_enter {key other : κ} {value : α} {entries : List (κ × α)}
    (held : other ∈ (enter key value entries).map Prod.fst) :
    other = key ∨ other ∈ entries.map Prod.fst := by
  rw [enter_keys] at held
  split at held
  · exact .inr held
  · exact (List.mem_append.mp held).symm.imp_left List.mem_singleton.mp

/-! ## Renamed keys -/

section Renamed

variable [DecidableEq ι] {φ : κ → ι} {key : κ} {entries : List (κ × α)}

/-- A key is found under its new name, if no other key has the same one. -/
theorem lookup_map (alone : ∀ other ∈ entries.map Prod.fst, φ other = φ key → other = key)
    (ψ : α → β) :
    lookup (φ key) (entries.map (Prod.map φ ψ)) = (lookup key entries).map ψ := by
  induction entries with
  | nil => rfl
  | cons entry rest ih =>
    obtain ⟨k, a⟩ := entry
    simp only [List.map_cons, List.mem_cons, forall_eq_or_imp] at alone
    rw [List.map_cons, lookup]
    by_cases same : k = key
    · rw [Prod.map_apply, lookup, if_pos (congrArg φ same), if_pos same, Option.map_some]
    · rw [Prod.map_apply, lookup, if_neg fun renamed => same (alone.1 renamed), if_neg same,
        ih alone.2]

/-- Entering under a key is entering under its new name, if no other key has the same one. -/
theorem enter_map (alone : ∀ other ∈ entries.map Prod.fst, φ other = φ key → other = key)
    (ψ : α → β) (value : α) :
    enter (φ key) (ψ value) (entries.map (Prod.map φ ψ)) =
      (enter key value entries).map (Prod.map φ ψ) := by
  induction entries with
  | nil => rfl
  | cons entry rest ih =>
    obtain ⟨k, a⟩ := entry
    simp only [List.map_cons, List.mem_cons, forall_eq_or_imp] at alone
    rw [List.map_cons, enter]
    by_cases same : k = key
    · rw [Prod.map_apply, enter, if_pos (congrArg φ same), if_pos same, List.map_cons,
        Prod.map_apply]
    · rw [Prod.map_apply, enter, if_neg fun renamed => same (alone.1 renamed), if_neg same,
        ih alone.2, List.map_cons, Prod.map_apply]

end Renamed

/-! ## Keys and values -/

section Keys

variable {pairs : List (κ × α)}

theorem nodup_keys_insert (distinct : t.keys.Nodup) (key : κ) (value : α) :
    (t.insert key value).keys.Nodup := by
  rw [keys_insert]
  split
  · exact distinct
  · rename_i new
    exact List.nodup_append.mpr ⟨distinct, List.nodup_singleton key,
      fun other held k last same => new (List.mem_singleton.mp last ▸ same ▸ held)⟩

theorem ofList_append_singleton (pairs : List (κ × α)) (pair : κ × α) :
    ofList (pairs ++ [pair]) = (ofList pairs).insert pair.1 pair.2 := List.foldl_append

/-- No key stands twice in a table of pairs, even if some pairs share one. -/
theorem nodup_keys_ofList (pairs : List (κ × α)) : (ofList pairs).keys.Nodup := by
  induction pairs using List.reverseRecOn with
  | nil => exact List.nodup_nil
  | append_singleton pairs pair ih =>
    rw [ofList_append_singleton]
    exact nodup_keys_insert ih pair.1 pair.2

/-- The keys of a table of pairs are those of the pairs, in the order in which they come first. -/
theorem keys_ofList [BEq κ] [LawfulBEq κ] (pairs : List (κ × α)) :
    (ofList pairs).keys = (pairs.map Prod.fst).eraseDups := by
  induction pairs using List.reverseRecOn with
  | nil => rfl
  | append_singleton pairs pair ih =>
    rw [ofList_append_singleton, keys_insert, ih, List.map_append, List.eraseDups_append]
    by_cases held : pair.1 ∈ pairs.map Prod.fst
    · rw [if_pos (List.mem_eraseDups.mpr held)]
      simp [List.removeAll, held]
    · rw [if_neg (mt List.mem_eraseDups.mp held)]
      simp [List.removeAll, held, List.eraseDups_cons]

/-- A table of pairs holds under every key what the last pair with this key gives. -/
theorem get?_ofList (pairs : List (κ × α)) (key : κ) :
    (ofList pairs).get? key = (pairs.reverse.find? fun pair => pair.1 = key).map Prod.snd := by
  induction pairs using List.reverseRecOn with
  | nil => rfl
  | append_singleton pairs pair ih =>
    rw [ofList_append_singleton, get?_insert, List.reverse_append, List.reverse_singleton,
      List.singleton_append]
    by_cases same : pair.1 = key
    · simp [same]
    · simp [same, ih]

/-- A table is told by its keys and what it holds under them. -/
theorem entries_eq_filterMap (distinct : t.keys.Nodup) :
    t.entries = t.keys.filterMap fun key => (t.get? key).map fun value => (key, value) := by
  obtain ⟨entries⟩ := t
  simp only [keys, get?] at distinct ⊢
  induction entries with
  | nil => rfl
  | cons entry rest ih =>
    obtain ⟨k, a⟩ := entry
    obtain ⟨new, others⟩ := List.nodup_cons.mp distinct
    have later : rest = (rest.map Prod.fst).filterMap fun key =>
        (lookup key ((k, a) :: rest)).map fun value => (key, value) := by
      refine (ih others).trans (List.filterMap_congr fun key listed => ?_)
      have apart : k ≠ key := fun same => new (same ▸ listed)
      rw [lookup, if_neg apart]
    rw [List.map_cons, List.filterMap_cons, lookup, if_pos rfl]
    exact congrArg ((k, a) :: ·) later

end Keys

/-! ## Tables side by side -/

variable [DecidableEq ι] {key : κ} {other : ι} {value : α} {value' : β}

/-- Related keys have related values or none. -/
theorem Matches.get? (distinct : Relator.BiUnique K) (same : Matches K V t u)
    (keys : K key other) : Option.Rel V (t.get? key) (u.get? other) := by
  obtain ⟨entries⟩ := t
  obtain ⟨entries'⟩ := u
  simp only [Matches] at same
  simp only [Table.get?]
  induction same with
  | nil => exact .none
  | @cons here there _ _ entry _ ih =>
    obtain ⟨k, a⟩ := here
    obtain ⟨k', b⟩ := there
    have alike : k = key ↔ k' = other := Relator.rel_eq distinct entry.1 keys
    simp only [lookup]
    by_cases found : k = key
    · rw [if_pos found, if_pos (alike.mp found)]
      exact .some entry.2
    · rw [if_neg found, if_neg fun same => found (alike.mpr same)]
      exact ih

/-- Tables match again when a related value is entered under a related key. -/
theorem Matches.insert (distinct : Relator.BiUnique K) (same : Matches K V t u)
    (keys : K key other) (values : V value value') :
    Matches K V (t.insert key value) (u.insert other value') := by
  obtain ⟨entries⟩ := t
  obtain ⟨entries'⟩ := u
  simp only [Matches, Table.insert] at same ⊢
  induction same with
  | nil => exact .cons ⟨keys, values⟩ .nil
  | @cons here there _ _ entry later ih =>
    obtain ⟨k, a⟩ := here
    obtain ⟨k', b⟩ := there
    have alike : k = key ↔ k' = other := Relator.rel_eq distinct entry.1 keys
    simp only [enter]
    by_cases found : k = key
    · rw [if_pos found, if_pos (alike.mp found)]
      exact .cons ⟨entry.1, values⟩ later
    · rw [if_neg found, if_neg fun same => found (alike.mpr same)]
      exact .cons entry ih

/-- Lists of related pairs make matching tables. -/
theorem matches_ofList (distinct : Relator.BiUnique K) {pairs : List (κ × α)}
    {pairs' : List (ι × β)} (related : List.Forall₂ (Both K V) pairs pairs') :
    Matches K V (ofList pairs) (ofList pairs') := by
  have entered : ∀ (t : Table κ α) (u : Table ι β), Matches K V t u →
      Matches K V (t.insertAll pairs) (u.insertAll pairs') := by
    induction related with
    | nil => exact fun _ _ same => same
    | cons pair _ ih => exact fun t u same => ih _ _ (same.insert distinct pair.1 pair.2)
  exact entered ∅ ∅ .nil

end Table

end Multigraph
