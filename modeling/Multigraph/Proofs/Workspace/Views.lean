import Mathlib.Order.Bounds.Basic
import Multigraph.Proofs.Graph.Simple
import Multigraph.Proofs.Graph.Stored
import Multigraph.Proofs.Operation.Intersection

/-!
The views of a graph from its nodes agree (`incidence_views_agree`). At every node the incidences
come in the order of their edges, a loop first at its source (`incidences_ordered`), and an edge is
listed once for each of its ends there (`incidences_of_edge`). The other views are told by the
incidences: the degree is their number, the edges at the node are theirs, its neighbours are their
far ends, and so is the opposite end of an edge. The first edge between two nodes is the one with
the least handle (`searchAgrees`).

A program reads some of these views off one of the two stores of a graph and some off the other. The
theorem is about all stores that can be reached; as these are in step, they answer as the graph does.
-/
namespace Multigraph

/-- The order of incidences: by their edges, and for a loop the source first. -/
def Incidence.Precedes (i j : Incidence) : Prop :=
  i.edge < j.edge ∨ i.edge = j.edge ∧ i.atSource = true ∧ j.atSource = false

namespace Graph

variable {g : Graph} {u v : NodeId}

/-! ## Incidences -/

/-- An incidence of an edge bears its handle. -/
theorem edge_of_mem_incidencesAt {e : Edge} {i : Incidence} (incident : i ∈ e.incidencesAt u) :
    i.edge = e.id := by
  rcases mem_incidencesAt.mp incident with ⟨_, rfl⟩ | ⟨_, rfl⟩
  · rfl
  · rfl

/-- Incidences are ordered by their edges, and a loop is listed at its source first. -/
theorem incidences_ordered (wf : g.WellFormed) (u : NodeId) :
    (g.incidences u).Pairwise Incidence.Precedes := by
  rw [incidences_eq_flatMap, List.pairwise_flatMap]
  constructor
  · intro e _
    by_cases source : e.source = u <;> by_cases target : e.target = u <;>
      simp [Edge.incidencesAt, Incidence.Precedes, source, target]
  · refine wf.edges_increasing.imp fun {d e} less i atFirst j atSecond => .inl ?_
    rw [edge_of_mem_incidencesAt atFirst, edge_of_mem_incidencesAt atSecond]
    exact less

/-- The incidences of an edge at a node stand together, and no others bear its handle. -/
theorem incidences_split (distinct : (g.edges.map Edge.id).Nodup) {e : Edge}
    (member : e ∈ g.edges) (u : NodeId) :
    ∃ before after, g.incidences u = before ++ e.incidencesAt u ++ after ∧
      ∀ i, i ∈ before ∨ i ∈ after → i.edge ≠ e.id := by
  obtain ⟨earlier, later, cut⟩ := List.append_of_mem member
  refine ⟨earlier.flatMap fun d => d.incidencesAt u, later.flatMap fun d => d.incidencesAt u,
    ?_, ?_⟩
  · rw [incidences_eq_flatMap, cut, List.flatMap_append, List.flatMap_cons, List.append_assoc]
  · intro i listed same
    obtain ⟨d, other, incident⟩ : ∃ d ∈ earlier ++ later, i ∈ d.incidencesAt u := by
      rw [← List.mem_flatMap, List.flatMap_append, List.mem_append]
      exact listed
    rw [edge_of_mem_incidencesAt incident] at same
    -- Handles are distinct, so another edge bears another one.
    rw [cut, List.map_append, List.map_cons] at distinct
    have apart := List.nodup_middle.mp distinct
    rw [← List.map_append, List.nodup_cons] at apart
    exact apart.1 (same ▸ List.mem_map_of_mem other)

/-- At a node an edge is listed once if it is its source and once if it is its target. -/
theorem incidences_of_edge (distinct : (g.edges.map Edge.id).Nodup) {e : Edge}
    (member : e ∈ g.edges) (u : NodeId) :
    (g.incidences u).filter (fun i => i.edge = e.id) = e.incidencesAt u := by
  obtain ⟨before, after, split, others⟩ := incidences_split distinct member u
  have none_before : before.filter (fun i => i.edge = e.id) = [] :=
    List.filter_eq_nil_iff.mpr fun i listed => by simpa using others i (.inl listed)
  have none_after : after.filter (fun i => i.edge = e.id) = [] :=
    List.filter_eq_nil_iff.mpr fun i listed => by simpa using others i (.inr listed)
  have all : (e.incidencesAt u).filter (fun i => i.edge = e.id) = e.incidencesAt u :=
    List.filter_eq_self.mpr fun i incident => by simpa using edge_of_mem_incidencesAt incident
  rw [split, List.filter_append, List.filter_append, none_before, none_after, all, List.nil_append,
    List.append_nil]

/-! ## The other views -/

/-- The edges at a node are those of its incidences. -/
theorem mem_ids_incidentEdges {id : EdgeId} :
    id ∈ (g.incidentEdges u).map Edge.id ↔ ∃ i ∈ g.incidences u, i.edge = id := by
  rw [List.mem_map]
  constructor
  · rintro ⟨e, listed, rfl⟩
    obtain ⟨member, touching⟩ := List.mem_filter.mp listed
    simp only [Edge.touches, Bool.or_eq_true, decide_eq_true_eq] at touching
    rcases touching with source | target
    · exact ⟨_, mem_incidences.mpr ⟨e, member, mem_incidencesAt.mpr (.inl ⟨source, rfl⟩)⟩, rfl⟩
    · exact ⟨_, mem_incidences.mpr ⟨e, member, mem_incidencesAt.mpr (.inr ⟨target, rfl⟩)⟩, rfl⟩
  · rintro ⟨i, incident, rfl⟩
    obtain ⟨e, member, found⟩ := mem_incidences.mp incident
    refine ⟨e, List.mem_filter.mpr ⟨member, ?_⟩, (edge_of_mem_incidencesAt found).symm⟩
    rcases mem_incidencesAt.mp found with ⟨source, _⟩ | ⟨target, _⟩
    · simp [Edge.touches, source]
    · simp [Edge.touches, target]

/-- The neighbours of a node are the far ends of its incidences. -/
theorem mem_neighbours_iff_twin (wf : g.WellFormed) :
    v ∈ g.neighbours u ↔ ∃ i ∈ g.incidences u, i.twin = v := by
  rw [mem_neighbours, ← mem_twins_iff_adjacent,
    and_iff_right_of_imp (mem_nodes_of_mem_twins wf), twins, List.mem_map]

/-- The opposite end of an edge is the far end of each of its incidences. -/
theorem opposite_of_mem_incidences (distinct : (g.edges.map Edge.id).Nodup) {i : Incidence}
    (incident : i ∈ g.incidences u) : g.opposite i.edge u = .ok i.twin := by
  obtain ⟨e, member, found⟩ := mem_incidences.mp incident
  rcases mem_incidencesAt.mp found with ⟨source, rfl⟩ | ⟨target, rfl⟩
  · have touching : e.touches u = true := by simp [Edge.touches, source]
    rw [opposite_run distinct member touching, Edge.far, if_pos source.symm]
  · have touching : e.touches u = true := by simp [Edge.touches, target]
    rw [opposite_run distinct member touching, Edge.far]
    split
    · rename_i source
      exact congrArg Except.ok (target.trans source)
    · rfl

/-- There is an opposite end exactly of an edge of the graph, at one of its ends. -/
theorem opposite_refused_iff (distinct : (g.edges.map Edge.id).Nodup) {id : EdgeId} {u : NodeId} :
    (∃ failure, g.opposite id u = .error failure) ↔
      g.hasEdge id = false ∨ ∃ e ∈ g.edges, e.id = id ∧ e.touches u = false := by
  constructor
  · rintro ⟨failure, refused⟩
    by_contra answered
    rw [not_or, Bool.not_eq_false] at answered
    obtain ⟨present, ends⟩ := answered
    obtain ⟨e, member, same⟩ := List.any_eq_true.mp present
    obtain rfl : e.id = id := of_decide_eq_true same
    have touching : e.touches u = true := by
      rw [← Bool.not_eq_false]
      exact fun apart => ends ⟨e, member, rfl, apart⟩
    rw [opposite_run distinct member touching] at refused
    cases refused
  · rintro (missing | ⟨e, member, rfl, apart⟩)
    · have absent : g.edge? id = none := List.find?_eq_none.mpr (List.any_eq_false.mp missing)
      refine ⟨.missingEdge id, ?_⟩
      rw [opposite, edge, absent]
      rfl
    · refine ⟨.notAnEndpoint u e.id, ?_⟩
      simp only [Edge.touches, Bool.or_eq_false_iff, decide_eq_false_iff_not] at apart
      rw [opposite, edge_of_mem distinct member]
      exact (if_neg (Ne.symm apart.1)).trans (if_neg (Ne.symm apart.2))

/-- An opposite end is refused as a matter of the graph. -/
theorem category_of_opposite_refused {id : EdgeId} {failure : Failure}
    (refused : g.opposite id u = .error failure) : failure.category = .graph := by
  rw [opposite, edge] at refused
  cases found : g.edge? id with
  | none =>
    rw [found] at refused
    cases refused
    rfl
  | some e =>
    rw [found] at refused
    change (if u = e.source then Except.ok e.target
      else if u = e.target then Except.ok e.source else throw _) = _ at refused
    split at refused
    · cases refused
    · split at refused
      · cases refused
      · cases refused
        rfl

/-- The sum of the degrees of the nodes counts every edge from both of its ends. -/
theorem sum_degrees (wf : g.WellFormed) : (g.nodes.map g.degree).sum = 2 * g.edgeCount := by
  have twins : ∀ u, g.degree u = (g.twins u).length := fun u => by
    rw [Graph.twins, List.length_map, length_incidences]
  rw [edgeCount, ← sum_length_twins wf]
  exact congrArg List.sum (List.map_congr_left fun u _ => twins u)

/-- What the views of a graph at one of its nodes have to do with each other. -/
structure ViewsAgree (g : Graph) (u : NodeId) : Prop where
  answered : ∀ {α : Type} (view : Graph → NodeId → α), g.atNode view u = .ok (view g u)
  incidences_ordered : (g.incidences u).Pairwise Incidence.Precedes
  /-- Every incidence at the node is that of an edge of the graph. -/
  incidence_known : ∀ i ∈ g.incidences u, i.node = u ∧ ∃ e ∈ g.edges, e.id = i.edge
  /-- An edge is listed at its source, leading to its target, and at its target, coming from its
  source, and not otherwise. -/
  incidences_of_edge : ∀ e ∈ g.edges, (g.incidences u).filter (fun i => i.edge = e.id) =
    (if e.source = u then [⟨e.id, u, e.target, true⟩] else []) ++
      (if e.target = u then [⟨e.id, u, e.source, false⟩] else [])
  /-- Nothing comes between the two incidences of a loop. -/
  loop_together : ∀ e ∈ g.edges, e.source = u → e.target = u →
    [⟨e.id, u, u, true⟩, ⟨e.id, u, u, false⟩] <:+: g.incidences u
  degree_eq : g.degree u = (g.incidences u).length
  edges_increasing : ((g.incidentEdges u).map Edge.id).Pairwise (· < ·)
  edges_iff : ∀ id, id ∈ (g.incidentEdges u).map Edge.id ↔ ∃ i ∈ g.incidences u, i.edge = id
  neighbours_nodup : (g.neighbours u).Nodup
  neighbours_iff : ∀ v, v ∈ g.neighbours u ↔ ∃ i ∈ g.incidences u, i.twin = v
  opposite_eq : ∀ i ∈ g.incidences u, g.opposite i.edge u = .ok i.twin

theorem viewsAgree (wf : g.WellFormed) (held : u ∈ g.nodes) : ViewsAgree g u where
  answered view := atNode_of_mem view held
  incidences_ordered := incidences_ordered wf u
  incidence_known i incident := by
    obtain ⟨e, member, found⟩ := mem_incidences.mp incident
    refine ⟨?_, e, member, (edge_of_mem_incidencesAt found).symm⟩
    rcases mem_incidencesAt.mp found with ⟨_, rfl⟩ | ⟨_, rfl⟩
    · rfl
    · rfl
  incidences_of_edge e member := incidences_of_edge wf.ids_nodup member u
  loop_together e member source target := by
    obtain ⟨before, after, split, _⟩ := incidences_split wf.ids_nodup member u
    refine ⟨before, after, ?_⟩
    rw [split, Edge.incidencesAt, if_pos source, if_pos target, source, target]
    rfl
  degree_eq := (length_incidences g u).symm
  edges_increasing := List.pairwise_map.mpr (wf.edges_increasing.filter _)
  edges_iff _ := mem_ids_incidentEdges
  neighbours_nodup := wf.nodes_nodup.filter _
  neighbours_iff _ := mem_neighbours_iff_twin wf
  opposite_eq _ incident := opposite_of_mem_incidences wf.ids_nodup incident

/-! ## The first edge between two nodes -/

/-- The handles of the edges between two nodes: those from the first to the second, and unless the
direction counts also those from the second to the first. -/
def between (g : Graph) (directed : Bool) (u v : NodeId) : Set EdgeId :=
  {id | ∃ e ∈ g.edges, e.id = id ∧ (e.ends = (u, v) ∨ directed = false ∧ e.ends = (v, u))}

/-- What searching for an edge between two nodes has to do with the views from them. -/
structure SearchAgrees (g : Graph) (u v : NodeId) : Prop where
  /-- A search finds the least handle there is, and nothing only where there is none. -/
  found_iff : ∀ directed, ∃ found, g.findEdge u v directed = .ok found ∧
    (∀ id, found = some id ↔ IsLeast (g.between directed u v) id) ∧
    (found = none ↔ g.between directed u v = ∅)
  none_iff : g.findEdge u v false = .ok none ↔ v ∉ g.neighbours u
  neighbours_comm : v ∈ g.neighbours u ↔ u ∈ g.neighbours v

theorem mem_between {directed : Bool} {id : EdgeId} : id ∈ g.between directed u v ↔
    ∃ e ∈ g.edges, e.id = id ∧ (if directed then e.runs u v else e.joins u v) = true := by
  refine exists_congr fun e => and_congr_right fun _ => and_congr_right fun _ => ?_
  cases directed with
  | true => simp [Edge.runs_eq]
  | false => simp [Edge.joins, Edge.runs_eq]

theorem findEdge_run (directed : Bool) (held : u ∈ g.nodes) (held' : v ∈ g.nodes) :
    g.findEdge u v directed = .ok ((g.edges.find? fun e =>
      if directed then e.runs u v else e.joins u v).map Edge.id) := by
  rw [findEdge, requireNode_of_mem held, requireNode_of_mem held']
  rfl

/-- Between two nodes there are edges exactly if they are adjacent. -/
theorem between_eq_empty_iff : g.between false u v = ∅ ↔ g.adjacent u v = false := by
  rw [Set.eq_empty_iff_forall_notMem, adjacent, List.any_eq_false]
  constructor
  · intro none e member joined
    exact none e.id (mem_between.mpr ⟨e, member, rfl, joined⟩)
  · intro none id listed
    obtain ⟨e, member, _, joined⟩ := mem_between.mp listed
    exact none e member joined

/-- The first edge between two nodes has the least handle. -/
theorem find?_between (wf : g.WellFormed) (directed : Bool) (u v : NodeId) (id : EdgeId) :
    (g.edges.find? fun e => if directed then e.runs u v else e.joins u v).map Edge.id = some id ↔
      IsLeast (g.between directed u v) id := by
  rw [Option.map_eq_some_iff]
  constructor
  · rintro ⟨e, found, rfl⟩
    obtain ⟨member, fits, least⟩ := (find?_eq_some_iff_least wf.edges_increasing).mp found
    refine ⟨mem_between.mpr ⟨e, member, rfl, fits⟩, fun id listed => ?_⟩
    obtain ⟨d, member', rfl, fits'⟩ := mem_between.mp listed
    exact least d member' fits'
  · rintro ⟨listed, least⟩
    obtain ⟨e, member, rfl, fits⟩ := mem_between.mp listed
    refine ⟨e, (find?_eq_some_iff_least wf.edges_increasing).mpr ⟨member, fits, ?_⟩, rfl⟩
    exact fun d member' fits' => least (mem_between.mpr ⟨d, member', rfl, fits'⟩)

theorem searchAgrees (wf : g.WellFormed) (held : u ∈ g.nodes) (held' : v ∈ g.nodes) :
    SearchAgrees g u v := by
  have none_iff : ∀ directed, (g.edges.find? fun e =>
      if directed then e.runs u v else e.joins u v).map Edge.id = none ↔
        g.between directed u v = ∅ := by
    intro directed
    rw [Option.map_eq_none_iff, List.find?_eq_none, Set.eq_empty_iff_forall_notMem]
    constructor
    · intro none id listed
      obtain ⟨e, member, _, fits⟩ := mem_between.mp listed
      exact none e member fits
    · intro none e member fits
      exact none e.id (mem_between.mpr ⟨e, member, rfl, fits⟩)
  refine ⟨fun directed => ⟨_, findEdge_run directed held held', find?_between wf directed u v,
    none_iff directed⟩, ?_, ?_⟩
  · rw [findEdge_run false held held', Except.ok.injEq, none_iff, between_eq_empty_iff,
      mem_neighbours, and_iff_right held', Bool.not_eq_true]
  · rw [mem_neighbours, mem_neighbours, adjacent_comm, and_iff_right held, and_iff_right held']

end Graph

namespace Workspace

open Store

/-- Whatever adjacency structure keeps its promises: every graph in a workspace that commands lead to
is kept in the two stores, these are in step in all that can be made of graphs, and then all views
that they give agree. -/
theorem incidence_views_agree {σ : Type} [Adjacency σ] [LawfulAdjacency σ] :
    (∀ w : Workspace, w.Reachable → ∀ id, ∃ store : Store σ,
      store.Reachable ∧ store.graph = w.graph id) ∧
    ∀ store : Store σ, store.Reachable → store.InStep ∧ store.Answers ∧
      (∀ u ∈ store.graph.nodes, Graph.ViewsAgree store.graph u) ∧
      (∀ edge u, (∃ failure, store.opposite edge u = .error failure) ↔
        store.graph.hasEdge edge = false ∨
          ∃ e ∈ store.graph.edges, e.id = edge ∧ e.touches u = false) ∧
      (∀ edge u failure, store.opposite edge u = .error failure → failure.category = .graph) ∧
      (∀ u ∈ store.graph.nodes, ∀ v ∈ store.graph.nodes, Graph.SearchAgrees store.graph u v) ∧
      (store.graph.nodes.map store.graph.degree).sum = 2 * store.graph.edgeCount := by
  refine ⟨fun w reached id => exists_stored (reached.grown id), fun store reached => ?_⟩
  have inStep := reached.inStep
  have wf := inStep.wellFormed
  refine ⟨inStep, inStep.answers, fun u held => Graph.viewsAgree wf held, ?_, ?_,
    fun u held v held' => Graph.searchAgrees wf held held', Graph.sum_degrees wf⟩
  · intro edge u
    rw [Store.opposite_eq]
    exact Graph.opposite_refused_iff wf.ids_nodup
  · intro edge u failure refused
    rw [Store.opposite_eq] at refused
    exact Graph.category_of_opposite_refused refused

/-- A loop, and edges in both directions beside it, after an edge and a node have been deleted. -/
def viewed : Store ArcList :=
  let bare := newNode.after (newNode.after (newNode.after (newNode.after empty)))
  let drawn := (newEdge 0 1).after ((newEdge 1 0).after ((newEdge 1 1).after
    ((newEdge 0 1).after bare)))
  (deleteNode 3).after ((deleteEdge 5).after ((newEdge 2 1).after ((newEdge 2 3).after drawn)))

theorem viewed_reachable : viewed.Reachable := by
  have bare := (Store.Reachable.empty (σ := ArcList)).newNode.newNode.newNode.newNode
  have drawn := (((bare.newEdge 0 1).newEdge 1 1).newEdge 1 0).newEdge 0 1
  exact (((drawn.newEdge 2 3).newEdge 2 1).deleteEdge 5).deleteNode 3

theorem incidence_views_agree_viewed :
    viewed.Reachable ∧ viewed.InStep ∧
      viewed.incidentEdges 1 = .ok [0, 1, 2, 3] ∧
      viewed.incidences 1 = .ok
        [⟨0, 1, 0, false⟩, ⟨1, 1, 1, true⟩, ⟨1, 1, 1, false⟩, ⟨2, 1, 0, true⟩, ⟨3, 1, 0, false⟩] ∧
      viewed.neighbours 1 = .ok {0, 1} ∧
      viewed.degree 1 = .ok 5 ∧
      viewed.opposite 3 1 = .ok 0 ∧
      (∃ failure, viewed.opposite 3 2 = .error failure ∧ failure.category = .graph) ∧
      IsLeast (viewed.graph.between false 1 0) 0 ∧
      viewed.findEdge 1 0 true = .ok (some 2) ∧
      viewed.findEdge 1 2 false = .ok none ∧
      (viewed.graph.nodes.map viewed.graph.degree).sum = 8 := by
  obtain ⟨inStep, answers, views, refusals, categories, searches, sum⟩ :=
    incidence_views_agree.2 viewed viewed_reachable
  have graph : viewed.graph =
      ⟨[0, 1, 2], [⟨0, 0, 1⟩, ⟨1, 1, 1⟩, ⟨2, 1, 0⟩, ⟨3, 0, 1⟩], 4, 6⟩ := by decide +kernel
  have two : (2 : NodeId) ∈ viewed.graph.nodes := by rw [graph]; decide
  have one : (1 : NodeId) ∈ viewed.graph.nodes := by rw [graph]; decide
  have zero : (0 : NodeId) ∈ viewed.graph.nodes := by rw [graph]; decide
  have incidences : viewed.incidences 1 = .ok
      [⟨0, 1, 0, false⟩, ⟨1, 1, 1, true⟩, ⟨1, 1, 1, false⟩, ⟨2, 1, 0, true⟩, ⟨3, 1, 0, false⟩] := by
    rw [answers.incidences_eq, graph]
    decide
  have opposite : viewed.opposite 3 1 = .ok 0 := by
    rw [answers.opposite_eq]
    exact (views 1 one).opposite_eq ⟨3, 1, 0, false⟩ (by rw [graph]; decide)
  obtain ⟨failure, refused⟩ := (refusals 3 2).mpr (.inr ⟨⟨3, 0, 1⟩, by rw [graph]; decide, rfl, rfl⟩)
  obtain ⟨found, searched, least, _⟩ := (searches 1 one 0 zero).found_iff false
  have first : viewed.graph.findEdge 1 0 false = .ok (some 0) := by rw [graph]; decide
  rw [first] at searched
  obtain rfl : some 0 = found := Except.ok.inj searched
  have apart := (searches 1 one 2 two).none_iff
  rw [← answers.findEdge_eq] at apart
  refine ⟨viewed_reachable, inStep, ?_, incidences, ?_, ?_, opposite,
    ⟨failure, refused, categories 3 2 failure refused⟩, (least 0).mp rfl, ?_, apart.mpr ?_, ?_⟩
  · rw [answers.incidentEdges_eq, graph]
    decide
  · rw [answers.neighbours_eq, graph]
    decide
  · rw [answers.degree_eq, graph]
    decide
  · rw [answers.findEdge_eq, graph]
    decide
  · rw [graph]
    decide
  · rw [sum, graph]
    rfl

end Workspace

end Multigraph
