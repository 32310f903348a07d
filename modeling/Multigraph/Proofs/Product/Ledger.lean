import Mathlib.Data.List.Dedup
import Multigraph.Proofs.Graph.Incidence
import Multigraph.Proofs.Product.Build

/-!
Ledgers. A ledger lists what has been assigned to a grid since the grid was last cleared, with every
repetition. A grid forgets what has been overwritten and keeps the rest twice, by pair and by row;
every assignment changes both tables. They stay in step (`inStep_filled`), so that what a grid
answers, by pair or by row, can be read off its ledger (`filled_tells`).
-/
namespace Multigraph

/-- Assignments of nodes to pairs, in their order. -/
abbrev Ledger := List ((NodeId × NodeId) × NodeId)

namespace Ledger

/-- The pairs of a ledger, each once, in the order of their first assignments. -/
def pairs (ledger : Ledger) : List (NodeId × NodeId) := (ledger.map Prod.fst).eraseDups

/-- The node that was last assigned to a pair. -/
def last? (ledger : Ledger) (pair : NodeId × NodeId) : Option NodeId :=
  (ledger.reverse.find? fun entry => entry.1 = pair).map Prod.snd

/-- The pairs of a ledger, each with the node that was last assigned to it. -/
def items (ledger : Ledger) : List ((NodeId × NodeId) × NodeId) :=
  ledger.pairs.filterMap fun pair => (ledger.last? pair).map fun node => (pair, node)

theorem entries_ofList (ledger : Ledger) : (Table.ofList ledger).entries = ledger.items := by
  rw [Table.entries_eq_filterMap (Table.nodup_keys_ofList ledger), Table.keys_ofList]
  simp only [Table.get?_ofList]
  rfl

example : items [((5, 6), 7), ((1, 2), 3), ((5, 6), 8)] = [((5, 6), 8), ((1, 2), 3)] := by decide

end Ledger

namespace Grid

/-- The second nodes of the items with a given first node, with the nodes of the items. -/
def rowOf (items : List ((NodeId × NodeId) × NodeId)) (first : NodeId) : List (NodeId × NodeId) :=
  (items.filter fun item => item.1.1 = first).map fun item => (item.1.2, item.2)

/-! ## Rows of entries -/

variable (items : List ((NodeId × NodeId) × NodeId)) (first second node : NodeId)

/-- Entering a pair enters its second node in the row of its first, and changes no other row. -/
theorem rowOf_enter (other : NodeId) :
    rowOf (Table.enter (first, second) node items) other =
      if first = other then Table.enter second node (rowOf items other) else rowOf items other := by
  induction items with
  | nil => by_cases here : first = other <;> simp [rowOf, Table.enter, here]
  | cons item rest ih =>
    obtain ⟨⟨v, w⟩, held⟩ := item
    rw [Table.enter]
    by_cases same : (v, w) = (first, second)
    · obtain ⟨rfl, rfl⟩ := Prod.mk.inj same
      by_cases here : v = other <;> simp [rowOf, Table.enter, here]
    · rw [if_neg same]
      by_cases listed : v = other
      · subst listed
        by_cases here : first = v
        · subst here
          have apart : w ≠ second := fun meet => same (congrArg _ meet)
          rw [if_pos rfl] at ih ⊢
          simpa [rowOf, Table.enter, apart] using ih
        · rw [if_neg here] at ih ⊢
          simpa [rowOf] using ih
      · simpa [rowOf, listed] using ih

/-- A second node is found in the row of a first node as their pair is found. -/
theorem lookup_rowOf : Table.lookup second (rowOf items first) =
    Table.lookup (first, second) items := by
  induction items with
  | nil => rfl
  | cons item rest ih =>
    obtain ⟨⟨v, w⟩, held⟩ := item
    rw [Table.lookup, ← ih]
    by_cases listed : v = first
    · by_cases same : w = second <;> simp [rowOf, Table.lookup, listed, same]
    · simp [rowOf, listed]

/-! ## Both tables -/

/-- The rows of a grid are those of its items; where there is no item there is no row. -/
def InStep (grid : Grid) : Prop := ∀ first, grid.rows.get? first =
  if rowOf grid.items first = [] then none else some ⟨rowOf grid.items first⟩

theorem inStep_empty : InStep {} := fun _ => rfl

variable {grid : Grid}

theorem InStep.assign (inStep : grid.InStep) : (grid.assign first second node).InStep := by
  intro other
  have entered : rowOf (grid.assign first second node).items other = _ :=
    rowOf_enter grid.items first second node other
  rw [entered, Grid.assign, Table.get?_insert]
  by_cases here : first = other
  · subst here
    have row : (grid.rows.get? first).getD ∅ = ⟨rowOf grid.items first⟩ := by
      rw [inStep first]
      split
      · rename_i empty
        rw [empty]
        rfl
      · rfl
    have filled : Table.enter second node (rowOf grid.items first) ≠ [] := by
      cases rowOf grid.items first with
      | nil => exact List.cons_ne_nil _ _
      | cons entry rest =>
        rw [Table.enter]
        split <;> exact List.cons_ne_nil _ _
    rw [if_pos rfl, if_pos rfl, row, if_neg filled]
    rfl
  · rw [if_neg here, if_neg here]
    exact inStep other

theorem InStep.filled (inStep : grid.InStep) (ledger : Ledger) :
    (Build.filled grid ledger).InStep := by
  induction ledger generalizing grid with
  | nil => exact inStep
  | cons entry rest ih => exact ih (inStep.assign entry.1.1 entry.1.2 entry.2)

/-! ## What a grid tells -/

/-- What a grid answers is told by a ledger. -/
structure Tells (ledger : Ledger) (grid : Grid) : Prop where
  /-- The items are the assigned pairs in the order of their first assignments, each with the node
  that was last assigned to it. -/
  items_eq : grid.items = ledger.items
  /-- A row lists the items with its first node in their order, and a node is refused exactly if it
  is the first node of no item. -/
  row_eq : ∀ first, grid.row first =
    if rowOf grid.items first = [] then .error (.missingKey first)
    else .ok ⟨rowOf grid.items first⟩
  /-- A pair is found exactly if its second node is in the row of its first, with the same node. -/
  node_eq_ok_iff : ∀ first second node, grid.node first second = .ok node ↔
    ∃ row, grid.row first = .ok row ∧ row.get? second = some node
  /-- A pair that is not found is refused. -/
  node_eq_error : ∀ first second, (∀ node, grid.node first second ≠ .ok node) →
    grid.node first second = .error (.missingPair first second)
  /-- There are as many pairs as all rows together have nodes. -/
  size_eq : grid.size = ((grid.items.map fun item => item.1.1).dedup.map fun first =>
    (rowOf grid.items first).length).sum

theorem InStep.row_eq (inStep : grid.InStep) (first : NodeId) : grid.row first =
    if rowOf grid.items first = [] then .error (.missingKey first)
    else .ok ⟨rowOf grid.items first⟩ := by
  rw [row, Table.fetch, inStep first]
  by_cases empty : rowOf grid.items first = []
  · rw [if_pos empty, if_pos empty]
  · rw [if_neg empty, if_neg empty]

/-- A pair is found with a node exactly if the row of its first node has its second with it. -/
theorem InStep.node?_eq_some_iff (inStep : grid.InStep) :
    grid.node? first second = some node ↔
      ∃ row, grid.row first = .ok row ∧ row.get? second = some node := by
  have found : grid.node? first second = Table.lookup second (rowOf grid.items first) :=
    (lookup_rowOf grid.items first second).symm
  rw [found, inStep.row_eq]
  split
  · rename_i empty
    simp [empty, Table.lookup]
  · constructor
    · exact fun held => ⟨_, rfl, held⟩
    · rintro ⟨row, same, held⟩
      cases same
      exact held

/-- The rows of all first nodes together list all items. -/
theorem sum_length_rowOf : ((items.map fun item => item.1.1).dedup.map fun first =>
    (rowOf items first).length).sum = items.length := by
  simp only [rowOf, List.length_map, ← List.countP_eq_length_filter]
  refine Graph.sum_countP_key (l := items) (fun item => item.1.1) (List.nodup_dedup _)
    fun item listed => ?_
  exact List.mem_dedup.mpr (List.mem_map_of_mem listed)

/-- What is filled from nothing is told by what has been filled in. -/
theorem filled_tells (ledger : Ledger) : Tells ledger (Build.filled {} ledger) := by
  have inStep : (Build.filled {} ledger).InStep := inStep_empty.filled ledger
  refine ⟨?_, inStep.row_eq, fun first second node => ?_, fun first second absent => ?_, ?_⟩
  · rw [Grid.items, Build.pairs_filled]
    exact ledger.entries_ofList
  · rw [← inStep.node?_eq_some_iff, Grid.node]
    cases (Build.filled {} ledger).node? first second <;> simp
  · rw [Grid.node] at absent ⊢
    cases found : (Build.filled {} ledger).node? first second with
    | none => rfl
    | some node =>
      rw [found] at absent
      exact absurd rfl (absent node)
  · rw [sum_length_rowOf]
    rfl

end Grid

end Multigraph
