import Multigraph.Product.Basic
import Multigraph.Proofs.Graph.Incidence
import Multigraph.Proofs.Product.Build

/-!
What the products draw. Each part of a drawing draws from the node of a pair to pairs that are told
by the edges of the factors alone (`along_reaches`), and a drawing that follows another draws its
targets after those of the other. So the drawing of every product reaches `Product.targets`
(`drawing_reaches`).
-/
namespace Multigraph

open Multigraph.Action Multigraph.Graph Build

namespace Drawing

/-! ## Parts -/

variable {pairs : List (NodeId × NodeId)}

/-- A drawing along known targets reaches them. -/
theorem along_reaches {listing : NodeId → NodeId → Except Failure (List (NodeId × NodeId))}
    {targets : NodeId × NodeId → List (NodeId × NodeId)}
    (listed : ∀ pair ∈ pairs, listing pair.1 pair.2 = .ok (targets pair))
    (inside : ∀ pair ∈ pairs, ∀ target ∈ targets pair, target ∈ pairs) :
    (along listing).Reaches pairs targets := by
  refine ⟨inside, fun grid place nodes placed pair member => ?_⟩
  have found : ∀ {other}, other ∈ pairs → grid.node other.1 other.2 = .ok (place other) := by
    intro other held
    rw [Grid.node, (placed other held).1]
  have single : ∀ target ∈ targets pair, Draws nodes
      (do discard (newEdge (place pair) (← Action.ofExcept (grid.node target.1 target.2)))) ()
      [(place pair, place target)] := by
    intro target held
    have reached := inside pair member target held
    exact draws_checked (found reached)
      (draws_newEdge (placed pair member).2 (placed target reached).2)
  have all := draws_forM single
  rw [← List.map_eq_flatMap] at all
  exact draws_checked (found member) (draws_checked (listed pair member) all)

/-- A drawing that follows another reaches the targets of both. -/
theorem followedBy_reaches {first second : Drawing}
    {targets more : NodeId × NodeId → List (NodeId × NodeId)} (earlier : first.Reaches pairs targets)
    (later : second.Reaches pairs more) :
    (followedBy first second).Reaches pairs fun pair => targets pair ++ more pair := by
  refine ⟨fun pair member target listed => ?_, fun grid place nodes placed pair member => ?_⟩
  · rcases List.mem_append.mp listed with ahead | behind
    · exact earlier.inside pair member target ahead
    · exact later.inside pair member target behind
  · rw [List.map_append]
    exact draws_bind (earlier.draws grid place nodes placed pair member)
      (later.draws grid place nodes placed pair member)

/-! ## Targets -/

/-- Along the edges of the second factor, within its copy. -/
def secondTargets (second : Graph) (pair : NodeId × NodeId) : List (NodeId × NodeId) :=
  (second.successors pair.2).map fun w => (pair.1, w)

/-- Along the edges of the first factor, within its copy. -/
def firstTargets (first : Graph) (pair : NodeId × NodeId) : List (NodeId × NodeId) :=
  (first.successors pair.1).map fun v => (v, pair.2)

/-- Along the edges of both factors at once. -/
def bothTargets (first second : Graph) (pair : NodeId × NodeId) : List (NodeId × NodeId) :=
  (first.twins pair.1).flatMap fun v => (second.successors pair.2).map fun w => (v, w)

/-- Along the edges of the first factor, to every copy of it. -/
def firstTargetsToAll (first second : Graph) (pair : NodeId × NodeId) : List (NodeId × NodeId) :=
  second.nodes.flatMap fun w => (first.successors pair.1).map fun v => (v, w)

/-- Along the edges of the second factor, to every copy of it. -/
def secondTargetsToAll (first second : Graph) (pair : NodeId × NodeId) :
    List (NodeId × NodeId) :=
  first.nodes.flatMap fun v => (second.successors pair.2).map fun w => (v, w)

/-- To the pairs that are apart in both factors, of later second nodes. -/
def apartTargets (first second : Graph) (pair : NodeId × NodeId) : List (NodeId × NodeId) :=
  (first.nodes.filter fun v => v ≠ pair.1 && v ∉ first.neighbours pair.1).flatMap fun v =>
    ((second.later pair.2).filter fun w => w ∉ second.neighbours pair.2).map fun w => (v, w)

/-- Along the edges of the first factor, within one copy only. -/
def firstTargetsAt (root : NodeId) (first : Graph) (pair : NodeId × NodeId) :
    List (NodeId × NodeId) :=
  if pair.2 = root then firstTargets first pair else []

variable {first second : Graph}

theorem secondEdges_reaches (wf : second.WellFormed) :
    (secondEdges second).Reaches (pairsOf first.nodes second.nodes) (secondTargets second) := by
  refine along_reaches (fun pair member => ?_) (fun pair member target listed => ?_)
  · rw [atNode_of_mem successors (mem_pairsOf.mp member).2]
    rfl
  · obtain ⟨w, leads, rfl⟩ := List.mem_map.mp listed
    exact mem_pairsOf.mpr ⟨(mem_pairsOf.mp member).1, mem_nodes_of_mem_successors wf leads⟩

theorem firstEdges_reaches (wf : first.WellFormed) :
    (firstEdges first).Reaches (pairsOf first.nodes second.nodes) (firstTargets first) := by
  refine along_reaches (fun pair member => ?_) (fun pair member target listed => ?_)
  · rw [atNode_of_mem successors (mem_pairsOf.mp member).1]
    rfl
  · obtain ⟨v, leads, rfl⟩ := List.mem_map.mp listed
    exact mem_pairsOf.mpr ⟨mem_nodes_of_mem_successors wf leads, (mem_pairsOf.mp member).2⟩

theorem bothEdges_reaches (wf : first.WellFormed) (other : second.WellFormed) :
    (bothEdges first second).Reaches (pairsOf first.nodes second.nodes)
      (bothTargets first second) := by
  refine along_reaches (fun pair member => ?_) (fun pair member target listed => ?_)
  · obtain ⟨row, column⟩ := mem_pairsOf.mp member
    rw [atNode_of_mem successors column, atNode_of_mem twins row]
    rfl
  · obtain ⟨v, beside, within⟩ := List.mem_flatMap.mp listed
    obtain ⟨w, leads, rfl⟩ := List.mem_map.mp within
    exact mem_pairsOf.mpr ⟨mem_nodes_of_mem_twins wf beside, mem_nodes_of_mem_successors other leads⟩

theorem firstEdgesToAll_reaches (wf : first.WellFormed) :
    (firstEdgesToAll first second).Reaches (pairsOf first.nodes second.nodes)
      (firstTargetsToAll first second) := by
  refine along_reaches (fun pair member => ?_) (fun pair member target listed => ?_)
  · rw [atNode_of_mem successors (mem_pairsOf.mp member).1]
    rfl
  · obtain ⟨w, column, within⟩ := List.mem_flatMap.mp listed
    obtain ⟨v, leads, rfl⟩ := List.mem_map.mp within
    exact mem_pairsOf.mpr ⟨mem_nodes_of_mem_successors wf leads, column⟩

theorem secondEdgesToAll_reaches (wf : second.WellFormed) :
    (secondEdgesToAll first second).Reaches (pairsOf first.nodes second.nodes)
      (secondTargetsToAll first second) := by
  refine along_reaches (fun pair member => ?_) (fun pair member target listed => ?_)
  · rw [atNode_of_mem successors (mem_pairsOf.mp member).2]
    rfl
  · obtain ⟨v, row, within⟩ := List.mem_flatMap.mp listed
    obtain ⟨w, leads, rfl⟩ := List.mem_map.mp within
    exact mem_pairsOf.mpr ⟨row, mem_nodes_of_mem_successors wf leads⟩

theorem apartEdges_reaches (first second : Graph) :
    (apartEdges first second).Reaches (pairsOf first.nodes second.nodes)
      (apartTargets first second) := by
  refine along_reaches (fun pair member => ?_) (fun pair member target listed => ?_)
  · obtain ⟨row, column⟩ := mem_pairsOf.mp member
    rw [atNode_of_mem neighbours row, atNode_of_mem neighbours column, atNode_of_mem later column]
    rfl
  · obtain ⟨v, other, within⟩ := List.mem_flatMap.mp listed
    obtain ⟨w, apart, rfl⟩ := List.mem_map.mp within
    have column := (List.mem_filter.mp apart).1
    exact mem_pairsOf.mpr ⟨(List.mem_filter.mp other).1, (List.mem_filter.mp column).1⟩

theorem firstEdgesAt_reaches (wf : first.WellFormed) (root : NodeId) :
    (firstEdgesAt root first).Reaches (pairsOf first.nodes second.nodes)
      (firstTargetsAt root first) := by
  have whole : (firstEdges first).Reaches (pairsOf first.nodes second.nodes)
      (firstTargets first) := firstEdges_reaches wf
  refine ⟨fun pair member target listed => ?_, fun grid place nodes placed pair member => ?_⟩
  · rw [firstTargetsAt] at listed
    split at listed
    · exact whole.inside pair member target listed
    · cases listed
  · rw [firstEdgesAt, firstTargetsAt]
    split
    · exact whole.draws grid place nodes placed pair member
    · exact draws_pure ()

end Drawing

namespace Product

open Drawing

/-- The pairs to whose nodes a product draws from the node of a pair. -/
def targets (product : Product) (first second : Graph) (pair : NodeId × NodeId) :
    List (NodeId × NodeId) :=
  match product with
  | cartesian => secondTargets second pair ++ firstTargets first pair
  | tensor => bothTargets first second pair
  | lexicographical => firstTargetsToAll first second pair ++ secondTargets second pair
  | strong => secondTargets second pair ++ firstTargets first pair ++ bothTargets first second pair
  | coNormal => firstTargetsToAll first second pair ++ secondTargetsToAll first second pair
  | modular => bothTargets first second pair ++ apartTargets first second pair
  | rooted root => secondTargets second pair ++ firstTargetsAt root first pair

/-- The drawing of a product draws to the targets of the product. -/
theorem drawing_reaches (product : Product) {first second : Graph} (wf : first.WellFormed)
    (other : second.WellFormed) :
    (product.drawing first second).Reaches (pairsOf first.nodes second.nodes)
      (product.targets first second) := by
  cases product with
  | cartesian => exact followedBy_reaches (secondEdges_reaches other) (firstEdges_reaches wf)
  | tensor => exact bothEdges_reaches wf other
  | lexicographical =>
    exact followedBy_reaches (firstEdgesToAll_reaches wf) (secondEdges_reaches other)
  | strong =>
    exact followedBy_reaches
      (followedBy_reaches (secondEdges_reaches other) (firstEdges_reaches wf))
      (bothEdges_reaches wf other)
  | coNormal =>
    exact followedBy_reaches (firstEdgesToAll_reaches wf) (secondEdgesToAll_reaches other)
  | modular =>
    exact followedBy_reaches (bothEdges_reaches wf other) (apartEdges_reaches first second)
  | rooted root =>
    exact followedBy_reaches (secondEdges_reaches other) (firstEdgesAt_reaches wf root)

end Product

end Multigraph
