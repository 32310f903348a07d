import Multigraph.Correspondence
import Multigraph.Proofs.Graph.Handles
import Multigraph.Proofs.Table

/-!
What a correspondence says about two graphs. Its set values point into the second graph when all
of them are nodes there; then they are its identifications, in the order of the nodes, and nothing
is refused (`resolve_run`). The images that an operation finds are read back from the
correspondence afterwards (`get?_recordImages`).
-/
namespace Multigraph.Assignment

/-- Every value set for a node of the first graph is a node of the second. -/
def PointsInto (values : Assignment) (domain codomain : Graph) : Prop :=
  ∀ node ∈ domain.nodes, ∀ value, values.get? node = some value →
    ∃ image ∈ codomain.nodes, value = .int image

instance (values : Assignment) (domain codomain : Graph) :
    Decidable (values.PointsInto domain codomain) :=
  inferInstanceAs (Decidable (∀ node ∈ domain.nodes, ∀ value ∈ values.get? node,
    ∃ image ∈ codomain.nodes, value = .int image))

/-- The node that a node is identified with, if it is set. -/
def target? (values : Assignment) (node : NodeId) : Option NodeId :=
  match values.get? node with
  | some (.int image) => some image
  | _ => none

/-- Where a node goes when nodes that are not set get handles by their place in a list. -/
def placeFrom (values : Assignment) (first : NodeId) (nodes : List NodeId) (node : NodeId) :
    NodeId := (values.target? node).getD (handleOf first nodes node)

/-- The set nodes of a list with the nodes they are identified with. -/
def identifications (values : Assignment) (nodes : List NodeId) : List (NodeId × NodeId) :=
  nodes.filterMap fun node => (values.target? node).map fun image => (node, image)

theorem PointsInto.target_mem {values : Assignment} {domain codomain : Graph}
    (valid : values.PointsInto domain codomain) {node image : NodeId} (held : node ∈ domain.nodes)
    (set : values.target? node = some image) : image ∈ codomain.nodes := by
  rw [target?] at set
  split at set
  · rename_i value found
    cases set
    obtain ⟨other, inside, same⟩ := valid node held _ found
    exact Value.int.inj same ▸ inside
  · cases set

theorem PointsInto.target_lt {values : Assignment} {domain codomain : Graph}
    (valid : values.PointsInto domain codomain) (wf : codomain.WellFormed) {node image : NodeId}
    (held : node ∈ domain.nodes) (set : values.target? node = some image) :
    image < codomain.nextNode := (wf.nodes_below image (valid.target_mem held set)).2

/-- A node is identified unless it is unset. -/
theorem PointsInto.isSome_target {values : Assignment} {domain codomain : Graph}
    (valid : values.PointsInto domain codomain) {node : NodeId} (held : node ∈ domain.nodes) :
    (values.target? node).isSome = !(values.get? node).isNone := by
  rw [target?]
  cases read : values.get? node with
  | none => rfl
  | some value =>
    obtain ⟨image, _, rfl⟩ := valid node held value read
    rfl

theorem target?_eq_some {values : Assignment} {node image : NodeId} :
    values.target? node = some image ↔ values.get? node = some (.int image) := by
  rw [target?]
  split
  · rename_i found
    simp [found]
  · rename_i other
    simpa using other image

theorem target?_of_unset {values : Assignment} {g : Graph} {node : NodeId}
    (unset : node ∈ values.unsetNodes g) : values.target? node = none := by
  have absent := Option.isNone_iff_eq_none.mp (List.mem_filter.mp unset).2
  rw [target?, absent]

/-- When all set values are nodes, a node that is not identified is unset. -/
theorem PointsInto.unset_of_target? {values : Assignment} {domain codomain : Graph}
    (valid : values.PointsInto domain codomain) {node : NodeId} (held : node ∈ domain.nodes)
    (bare : values.target? node = none) : node ∈ values.unsetNodes domain := by
  have unset := valid.isSome_target held
  rw [bare] at unset
  exact List.mem_filter.mpr ⟨held, by simpa using unset⟩

/-- A node that is not unset corresponds to a node of the second graph. -/
theorem PointsInto.target_of_set {values : Assignment} {domain codomain : Graph}
    (valid : values.PointsInto domain codomain) {node : NodeId} (held : node ∈ domain.nodes)
    (set : node ∉ values.unsetNodes domain) :
    ∃ image ∈ codomain.nodes, values.target? node = some image := by
  cases found : values.target? node with
  | some image => exact ⟨image, valid.target_mem held found, rfl⟩
  | none => exact absurd (valid.unset_of_target? held found) set

theorem keys_identifications_sublist (values : Assignment) (nodes : List NodeId) :
    ((values.identifications nodes).map Prod.fst).Sublist nodes := by
  induction nodes with
  | nil => exact .refl _
  | cons node rest ih =>
    rw [identifications, List.filterMap_cons]
    cases values.target? node with
    | none => exact ih.cons node
    | some image => exact ih.cons_cons node

/-- A node of the list is found among the identifications exactly if it is set. -/
theorem lookup_identifications (values : Assignment) (nodes : List NodeId) (node : NodeId) :
    Table.lookup node (values.identifications nodes) =
      if node ∈ nodes then values.target? node else none := by
  induction nodes with
  | nil => rfl
  | cons first rest ih =>
    have split : values.identifications (first :: rest) =
        ((values.target? first).map fun image => (first, image)).toList ++
          values.identifications rest := by
      rw [identifications, List.filterMap_cons]
      cases values.target? first <;> rfl
    rw [split]
    by_cases same : first = node
    · subst same
      rw [if_pos List.mem_cons_self]
      cases set : values.target? first with
      | some image => simp [Table.lookup]
      | none => simp [ih, set]
    · have elsewhere : node ∈ first :: rest ↔ node ∈ rest := by simp [Ne.symm same]
      simp only [elsewhere]
      cases values.target? first with
      | some image => simp [Table.lookup, same, ih]
      | none => simp [ih]

theorem mem_keys_identifications {values : Assignment} {nodes : List NodeId} {node : NodeId} :
    node ∈ (values.identifications nodes).map Prod.fst ↔
      node ∈ nodes ∧ (values.target? node).isSome = true := by
  simp [identifications, Option.isSome_iff_exists]

/-- Identifications that point into the second graph are all found. -/
theorem resolve_run {values : Assignment} {domain codomain : Graph}
    (valid : values.PointsInto domain codomain) (distinct : domain.nodes.Nodup)
    (refuse : NodeId → Value → Failure) :
    values.resolve domain codomain refuse = .ok ⟨values.identifications domain.nodes⟩ := by
  have step : ∀ node ∈ domain.nodes, ∀ found : Table NodeId NodeId,
      identify values codomain refuse found node =
        .ok (((values.target? node).map fun image => (node, image)).toList.foldl
          (fun found pair => found.insert pair.1 pair.2) found) := by
    intro node held found
    rw [identify, target?]
    cases read : values.get? node with
    | none => rfl
    | some value =>
      obtain ⟨image, inside, rfl⟩ := valid node held value read
      exact if_pos inside
  have loop : ∀ nodes : List NodeId, (∀ node ∈ nodes, node ∈ domain.nodes) →
      ∀ found : Table NodeId NodeId, nodes.foldlM (identify values codomain refuse) found =
        .ok (found.insertAll (values.identifications nodes)) := by
    intro nodes
    induction nodes with
    | nil => exact fun _ _ => rfl
    | cons node rest ih =>
      intro inside found
      have later := ih (fun other held => inside other (List.mem_cons_of_mem node held))
      rw [List.foldlM_cons, step node (inside node List.mem_cons_self) found]
      refine (later _).trans ?_
      rw [identifications, identifications, List.filterMap_cons]
      cases values.target? node <;> rfl
  rw [resolve, loop domain.nodes (fun _ held => held) ∅]
  exact congrArg Except.ok (Table.ofList_eq
    (distinct.sublist (keys_identifications_sublist values domain.nodes)))

/-- A value that is no node of the second graph is refused. -/
theorem identify_refuses {values : Assignment} {codomain : Graph} {node : NodeId} {value : Value}
    (set : values.get? node = some value) (outside : ∀ image ∈ codomain.nodes, value ≠ .int image)
    (refuse : NodeId → Value → Failure) (found : Table NodeId NodeId) :
    identify values codomain refuse found node = .error (refuse node value) := by
  rw [identify, set]
  cases value with
  | int image => exact if_neg fun held => outside image held rfl
  | text s => rfl

/-- Identifications that do not all point into the second graph are refused, for one of the values
that do not. -/
theorem resolve_refuses {values : Assignment} {domain codomain : Graph}
    (invalid : ¬ values.PointsInto domain codomain) (refuse : NodeId → Value → Failure) :
    ∃ node ∈ domain.nodes, ∃ value, values.get? node = some value ∧
      (∀ image ∈ codomain.nodes, value ≠ .int image) ∧
      values.resolve domain codomain refuse = .error (refuse node value) := by
  have loop : ∀ nodes : List NodeId,
      (¬ ∀ node ∈ nodes, ∀ value, values.get? node = some value →
        ∃ image ∈ codomain.nodes, value = .int image) →
      ∀ found : Table NodeId NodeId, ∃ node ∈ nodes, ∃ value, values.get? node = some value ∧
        (∀ image ∈ codomain.nodes, value ≠ .int image) ∧
        nodes.foldlM (identify values codomain refuse) found = .error (refuse node value) := by
    intro nodes
    induction nodes with
    | nil => exact fun wrong => absurd (by simp) wrong
    | cons first rest ih =>
      intro wrong found
      by_cases fits : ∀ value, values.get? first = some value →
          ∃ image ∈ codomain.nodes, value = .int image
      · -- The first node is passed, so the value that is refused is a later one.
        obtain ⟨next, passed⟩ : ∃ next, identify values codomain refuse found first = .ok next := by
          rw [identify]
          cases read : values.get? first with
          | none => exact ⟨found, rfl⟩
          | some value =>
            obtain ⟨image, inside, rfl⟩ := fits value read
            exact ⟨_, if_pos inside⟩
        obtain ⟨node, member, value, facts, outside, refused⟩ := ih (fun right =>
          wrong (List.forall_mem_cons.mpr ⟨fits, right⟩)) next
        refine ⟨node, List.mem_cons_of_mem first member, value, facts, outside, ?_⟩
        rw [List.foldlM_cons, passed]
        exact refused
      · push Not at fits
        obtain ⟨value, set, outside⟩ := fits
        refine ⟨first, List.mem_cons_self, value, set, outside, ?_⟩
        rw [List.foldlM_cons, identify_refuses set outside]
        rfl
  exact loop domain.nodes invalid ∅

/-! ## Recording images -/

/-- Recorded images are read back, and nodes without an image keep their value. -/
theorem get?_recordImages (values : Assignment) {images : Table NodeId NodeId}
    (distinct : images.keys.Nodup) (node : NodeId) :
    (values.recordImages images).get? node =
      match images.get? node with
      | some image => some (.int image)
      | none => values.get? node := by
  obtain ⟨entries⟩ := images
  rw [recordImages, Table.get?]
  simp only [Table.keys] at distinct ⊢
  induction entries generalizing values with
  | nil => rfl
  | cons entry rest ih =>
    obtain ⟨key, image⟩ := entry
    obtain ⟨new, others⟩ := List.nodup_cons.mp distinct
    have later := ih (values.insert key (.int image)) others
    have head : (⟨(key, image) :: rest⟩ : Table NodeId NodeId).get? node =
        if key = node then some image else (⟨rest⟩ : Table NodeId NodeId).get? node := rfl
    rw [List.foldl_cons, later, head]
    by_cases same : key = node
    · have absent : (⟨rest⟩ : Table NodeId NodeId).get? node = none :=
        Table.lookup_eq_none (same ▸ new)
      rw [absent, if_pos same, Table.get?_insert, if_pos same]
    · rw [if_neg same, Table.get?_insert, if_neg same]

end Multigraph.Assignment
