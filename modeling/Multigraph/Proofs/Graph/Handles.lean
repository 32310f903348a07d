import Mathlib.Data.List.Nodup
import Mathlib.Data.List.Pairwise
import Multigraph.Graph.Basic
import Multigraph.Table

/-!
Handles given out in a row. When a counter gives handles to the members of a list in their order,
each member gets the counter plus its place in the list (`map_handleOf`), and the table of members
and handles finds it there (`lookup_zip_handlesFrom`). Where handles increase along a list, the first
member with a property has the least handle of those that have it (`find?_eq_some_iff_least`).
-/
namespace Multigraph

/-- Consecutive handles from a counter on. -/
def handlesFrom (first : Int) : Nat → List Int
  | 0 => []
  | count + 1 => first :: handlesFrom (first + 1) count

/-- The handle of a member when the members of a list get handles in their order. -/
def handleOf {α : Type} [DecidableEq α] (first : Int) (l : List α) (a : α) : Int :=
  first + l.idxOf a

/-! ## Handles in a row -/

@[simp] theorem length_handlesFrom (first : Int) (count : Nat) :
    (handlesFrom first count).length = count := by
  induction count generalizing first with
  | zero => rfl
  | succ count ih => rw [handlesFrom, List.length_cons, ih]

theorem mem_handlesFrom {first handle : Int} {count : Nat} :
    handle ∈ handlesFrom first count ↔ first ≤ handle ∧ handle < first + count := by
  induction count generalizing first with
  | zero =>
    simp only [handlesFrom, List.not_mem_nil, false_iff]
    omega
  | succ count ih =>
    simp only [handlesFrom, List.mem_cons, ih]
    omega

theorem handlesFrom_increasing (first : Int) (count : Nat) :
    (handlesFrom first count).Pairwise (· < ·) := by
  induction count generalizing first with
  | zero => exact .nil
  | succ count ih =>
    refine List.pairwise_cons.mpr ⟨fun handle later => ?_, ih (first + 1)⟩
    have above := (mem_handlesFrom.mp later).1
    omega

/-! ## The handle of a member -/

variable {α : Type} [DecidableEq α] {first : Int} {l : List α} {a b : α}

theorem le_handleOf (first : Int) (l : List α) (a : α) : first ≤ handleOf first l a := by
  unfold handleOf
  omega

theorem handleOf_lt (member : a ∈ l) : handleOf first l a < first + l.length := by
  have place := List.idxOf_lt_length_of_mem member
  unfold handleOf
  omega

theorem handleOf_mem (member : a ∈ l) : handleOf first l a ∈ handlesFrom first l.length :=
  mem_handlesFrom.mpr ⟨le_handleOf first l a, handleOf_lt member⟩

theorem handleOf_cons_self (first : Int) (a : α) (l : List α) : handleOf first (a :: l) a = first := by
  simp [handleOf]

theorem handleOf_cons_ne (first : Int) (l : List α) (apart : b ≠ a) :
    handleOf first (b :: l) a = handleOf (first + 1) l a := by
  unfold handleOf
  rw [List.idxOf_cons_ne l apart]
  omega

/-- Members are told apart by their handles. -/
theorem handleOf_inj (member : a ∈ l) (same : handleOf first l a = handleOf first l b) : a = b := by
  refine (List.idxOf_inj member).mp ?_
  unfold handleOf at same
  omega

/-- The members have the handles in their order. -/
theorem map_handleOf (first : Int) (distinct : l.Nodup) :
    l.map (handleOf first l) = handlesFrom first l.length := by
  induction l generalizing first with
  | nil => rfl
  | cons b rest ih =>
    obtain ⟨new, others⟩ := List.nodup_cons.mp distinct
    rw [List.map_cons, handleOf_cons_self, List.length_cons, handlesFrom, ← ih (first + 1) others]
    refine congrArg (first :: ·) (List.map_congr_left fun a member => ?_)
    exact handleOf_cons_ne first rest fun same => new (same ▸ member)

/-- Later members have greater handles. -/
theorem handleOf_increasing (first : Int) (distinct : l.Nodup) :
    l.Pairwise fun a b => handleOf first l a < handleOf first l b := by
  have increasing := handlesFrom_increasing first l.length
  rw [← map_handleOf first distinct] at increasing
  exact List.pairwise_map.mp increasing

/-- In an increasing list the handles are in the order of the members. -/
theorem handleOf_lt_iff {nodes : List Int} (increasing : nodes.Pairwise (· < ·)) (first : Int)
    {u v : Int} (held : u ∈ nodes) (other : v ∈ nodes) :
    handleOf first nodes u < handleOf first nodes v ↔ u < v := by
  have handles := handleOf_increasing first (increasing.imp Int.ne_of_lt)
  have both := increasing.and handles
  refine List.Pairwise.forall_of_forall_of_flip
    (R := fun u v => handleOf first nodes u < handleOf first nodes v ↔ u < v)
    (fun _ _ => by simp) (both.imp fun order => ?_) (both.imp fun order => ?_) held other
  · exact iff_of_true order.2 order.1
  · exact iff_of_false (Int.lt_asymm order.2) (Int.lt_asymm order.1)

/-- The table of members and handles finds the handle of every member and nothing else. -/
theorem lookup_zip_handlesFrom (first : Int) (l : List α) (a : α) :
    Table.lookup a (l.zip (handlesFrom first l.length)) =
      if a ∈ l then some (handleOf first l a) else none := by
  induction l generalizing first with
  | nil => rfl
  | cons b rest ih =>
    rw [List.length_cons, handlesFrom, List.zip_cons_cons, Table.lookup]
    by_cases same : b = a
    · subst same
      rw [if_pos rfl, if_pos List.mem_cons_self, handleOf_cons_self]
    · have elsewhere : a ∈ b :: rest ↔ a ∈ rest := by simp [Ne.symm same]
      rw [if_neg same, ih (first + 1), handleOf_cons_ne first rest same]
      simp only [elsewhere]

/-! ## Increasing lists -/

/-- In an increasing list the first element with a property is the least one. -/
theorem find?_eq_some_iff_least {α : Type} {key : α → Int} {l : List α}
    (increasing : l.Pairwise fun a b => key a < key b) {p : α → Bool} {a : α} :
    l.find? p = some a ↔ a ∈ l ∧ p a = true ∧ ∀ b ∈ l, p b = true → key a ≤ key b := by
  induction l with
  | nil => simp
  | cons head rest ih =>
    obtain ⟨least, others⟩ := List.pairwise_cons.mp increasing
    rw [List.find?_cons]
    cases found : p head with
    | true =>
      constructor
      · rintro same
        obtain rfl := Option.some.inj same
        refine ⟨List.mem_cons_self, found, fun b member _ => ?_⟩
        rcases List.mem_cons.mp member with rfl | later
        · exact Int.le_refl _
        · exact Int.le_of_lt (least b later)
      · rintro ⟨member, _, first⟩
        rcases List.mem_cons.mp member with rfl | later
        · rfl
        · exact absurd (first head List.mem_cons_self found) (Int.not_le.mpr (least a later))
    | false =>
      rw [ih others]
      constructor
      · rintro ⟨member, holds, first⟩
        refine ⟨List.mem_cons_of_mem head member, holds, fun b listed right => ?_⟩
        rcases List.mem_cons.mp listed with rfl | later
        · simp [found] at right
        · exact first b later right
      · rintro ⟨member, holds, first⟩
        rcases List.mem_cons.mp member with rfl | later
        · simp [found] at holds
        · exact ⟨later, holds, fun b listed => first b (List.mem_cons_of_mem head listed)⟩

end Multigraph
