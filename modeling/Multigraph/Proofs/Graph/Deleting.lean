import Mathlib.Data.List.Nodup
import Multigraph.Proofs.Action.Loop
import Multigraph.Proofs.Graph.Change

/-!
Deleting edges and nodes by their handles. Handles tell the edges of a graph apart, so deleting some
edges one by one leaves exactly the others, in their order; deleting some nodes one by one leaves
the other nodes and the edges between them.
-/
namespace Multigraph

/-- Edges with distinct handles are told by them. -/
theorem Edge.eq_of_id_eq {edges : List Edge} (distinct : (edges.map Edge.id).Nodup) {e f : Edge}
    (member : e ∈ edges) (other : f ∈ edges) (same : e.id = f.id) : e = f :=
  List.inj_on_of_nodup_map distinct member other same

namespace Graph

/-- The graph without the edges that have certain handles. -/
def withoutEdges (g : Graph) (ids : List EdgeId) : Graph :=
  { g with edges := g.edges.filter fun e => e.id ∉ ids }

theorem withoutEdges_nil (g : Graph) : g.withoutEdges [] = g := by simp [withoutEdges]

theorem withoutEdges_cons (g : Graph) (edge : EdgeId) (ids : List EdgeId) :
    g.withoutEdges (edge :: ids) = (g.withoutEdge edge).withoutEdges ids := by
  simp only [withoutEdges, withoutEdge, List.filter_filter, List.mem_cons, not_or,
    Bool.decide_and, Bool.and_comm]

theorem hasEdge_of_mem {g : Graph} {e : Edge} (member : e ∈ g.edges) :
    g.hasEdge e.id = true := List.any_eq_true.mpr ⟨e, member, by simp⟩

theorem hasEdge_withoutEdge (g : Graph) (edge : EdgeId) :
    (g.withoutEdge edge).hasEdge edge = false := by
  simp [hasEdge, withoutEdge]

/-- Without an edge that it does not have, a graph is what it is. -/
theorem withoutEdge_of_absent {g : Graph} {edge : EdgeId} (absent : g.edge? edge = none) :
    g.withoutEdge edge = g := by
  have others := List.find?_eq_none.mp absent
  have all : g.edges.filter (fun e => e.id ≠ edge) = g.edges :=
    List.filter_eq_self.mpr fun e member => by simpa using others e member
  rw [withoutEdge, all]

/-- The other edges stay when one is deleted. -/
theorem mem_withoutEdge {g : Graph} {e : Edge} {rest : List Edge}
    (distinct : ((e :: rest).map Edge.id).Nodup) (held : ∀ f ∈ e :: rest, f ∈ g.edges) :
    ∀ f ∈ rest, f ∈ (g.withoutEdge e.id).edges := by
  intro f member
  have apart : f.id ≠ e.id := fun same =>
    (List.nodup_cons.mp distinct).1 (same ▸ List.mem_map_of_mem member)
  exact List.mem_filter.mpr ⟨held f (List.mem_cons_of_mem e member), by simpa using apart⟩

/-- Deleting the edges with a property leaves those without it. -/
theorem withoutEdges_filter {g : Graph} (distinct : (g.edges.map Edge.id).Nodup)
    (p : Edge → Bool) :
    g.withoutEdges ((g.edges.filter p).map Edge.id) =
      { g with edges := g.edges.filter fun e => !p e } := by
  have left : (g.edges.filter fun e => decide (e.id ∉ (g.edges.filter p).map Edge.id)) =
      g.edges.filter fun e => !p e := by
    refine List.filter_congr fun e member => ?_
    have gone : e.id ∈ (g.edges.filter p).map Edge.id ↔ p e = true := by
      constructor
      · intro listed
        obtain ⟨f, found, same⟩ := List.mem_map.mp listed
        obtain ⟨other, goes⟩ := List.mem_filter.mp found
        exact Edge.eq_of_id_eq distinct other member same ▸ goes
      · intro goes
        exact List.mem_map_of_mem (List.mem_filter.mpr ⟨member, goes⟩)
    simp only [gone]
    cases p e <;> rfl
  rw [withoutEdges, left]

theorem deleteEdge_of_mem {g : Graph} {e : Edge} (member : e ∈ g.edges) :
    deleteEdge e.id g = .ok () (g.withoutEdge e.id) := by
  cases found : g.edge? e.id with
  | none =>
    have absent := List.find?_eq_none.mp found e member
    simp at absent
  | some f =>
    have same : f.id = e.id := by simpa using List.find?_some found
    rw [deleteEdge_run found, same]

/-- An edge of the graph is found by its handle. -/
theorem edge?_of_mem {g : Graph} {e : Edge} (distinct : (g.edges.map Edge.id).Nodup)
    (member : e ∈ g.edges) : g.edge? e.id = some e := by
  cases found : g.edge? e.id with
  | none =>
    have absent := List.find?_eq_none.mp found e member
    simp at absent
  | some f =>
    have same : f.id = e.id := by simpa using List.find?_some found
    rw [Edge.eq_of_id_eq distinct (List.mem_of_find?_eq_some found) member same]

theorem edge_of_mem {g : Graph} {e : Edge} (distinct : (g.edges.map Edge.id).Nodup)
    (member : e ∈ g.edges) : g.edge e.id = .ok e := by
  rw [Graph.edge, edge?_of_mem distinct member]

/-- A loop that deletes distinct edges of the graph deletes them all. -/
theorem deleteEdges_run {g : Graph} {es : List Edge} (held : ∀ e ∈ es, e ∈ g.edges)
    (distinct : (es.map Edge.id).Nodup) :
    es.forM (fun e => deleteEdge e.id) g = .ok () (g.withoutEdges (es.map Edge.id)) := by
  induction es generalizing g with
  | nil => exact congrArg (EStateM.Result.ok ()) (withoutEdges_nil g).symm
  | cons e rest ih =>
    rw [List.map_cons, withoutEdges_cons]
    exact (Action.bind_of_ok (deleteEdge_of_mem (held e List.mem_cons_self))).trans
      (ih (mem_withoutEdge distinct held) (List.nodup_cons.mp distinct).2)

/-! ## Nodes -/

/-- The graph without some nodes and the edges at them. -/
def withoutNodes (g : Graph) (gone : List NodeId) : Graph :=
  { g with
    nodes := g.nodes.filter fun node => node ∉ gone
    edges := g.edges.filter fun e => e.source ∉ gone && e.target ∉ gone }

theorem withoutNodes_nil (g : Graph) : g.withoutNodes [] = g := by simp [withoutNodes]

theorem withoutNodes_cons (g : Graph) (node : NodeId) (gone : List NodeId) :
    g.withoutNodes (node :: gone) = (g.withoutNode node).withoutNodes gone := by
  simp only [withoutNodes, withoutNode, List.filter_filter]
  congr 1
  · refine List.filter_congr fun other _ => ?_
    simp only [List.mem_cons, not_or, Bool.decide_and, Bool.and_comm]
  · refine List.filter_congr fun e _ => ?_
    by_cases source : e.source = node <;> by_cases target : e.target = node <;>
      simp [Edge.touches, source, target]

/-- Without a foreign node, at which there are no edges, a graph is what it is. -/
theorem withoutNode_of_foreign {g : Graph} (wf : g.WellFormed) {node : NodeId}
    (foreign : node ∉ g.nodes) : g.withoutNode node = g := by
  have nodes : g.nodes.filter (fun other => other ≠ node) = g.nodes :=
    List.filter_eq_self.mpr fun other held => decide_eq_true fun same => foreign (same ▸ held)
  have edges : g.edges.filter (fun e => !e.touches node) = g.edges := by
    refine List.filter_eq_self.mpr fun e member => ?_
    have source : e.source ≠ node := fun same => foreign (same ▸ (wf.ends_mem e member).1)
    have target : e.target ≠ node := fun same => foreign (same ▸ (wf.ends_mem e member).2)
    simp [Edge.touches, source, target]
  rw [withoutNode, nodes, edges]

/-- A loop that deletes distinct nodes of the graph deletes them all. -/
theorem deleteNodes_run {g : Graph} {gone : List NodeId} (held : ∀ node ∈ gone, node ∈ g.nodes)
    (distinct : gone.Nodup) : gone.forM deleteNode g = .ok () (g.withoutNodes gone) := by
  induction gone generalizing g with
  | nil => exact congrArg (EStateM.Result.ok ()) (withoutNodes_nil g).symm
  | cons node rest ih =>
    obtain ⟨new, others⟩ := List.nodup_cons.mp distinct
    have later : ∀ other ∈ rest, other ∈ (g.withoutNode node).nodes := by
      intro other member
      have apart : other ≠ node := fun same => new (same ▸ member)
      exact List.mem_filter.mpr
        ⟨held other (List.mem_cons_of_mem node member), by simpa using apart⟩
    rw [withoutNodes_cons]
    exact (Action.bind_of_ok (deleteNode_run (held node List.mem_cons_self))).trans
      (ih later others)

end Graph

end Multigraph
