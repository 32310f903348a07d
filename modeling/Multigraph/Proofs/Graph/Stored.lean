import Multigraph.Proofs.Graph.Handles
import Multigraph.Proofs.Graph.Store

/-!
What the two stores of a graph answer. Some views are read off the adjacency structure, others off
the table, and one off both. When the stores are in step, each of them answers what the view of the
graph that bears its name does, and refuses what it refuses (`InStep.answers`).

The last part has an adjacency structure that keeps its arcs in one list. It keeps all promises.
-/
namespace Multigraph

namespace Store

variable {σ α : Type} [Adjacency σ] {store : Store σ} {u v : NodeId}

/-- The views of the stores are those of the graph. -/
structure Answers (store : Store σ) : Prop where
  endpoints_eq : ∀ edge, store.endpoints edge = (store.graph.edge edge).map Edge.ends
  opposite_eq : ∀ edge node, store.opposite edge node = store.graph.opposite edge node
  incidentEdges_eq : ∀ node, store.incidentEdges node =
    store.graph.atNode (fun g u => (g.incidentEdges u).map Edge.id) node
  incidences_eq : ∀ node, store.incidences node = store.graph.atNode Graph.incidences node
  neighbours_eq : ∀ node, store.neighbours node =
    store.graph.atNode (fun g u => (g.neighbours u).toFinset) node
  degree_eq : ∀ node, store.degree node = store.graph.atNode Graph.degree node
  later_eq : ∀ node, store.later node = store.graph.atNode Graph.later node
  findEdge_eq : ∀ u v directed,
    store.findEdge u v directed = store.graph.findEdge u v directed

/-- A view at a node is that of the graph if it is so where the node is there. -/
theorem atNode_eq {view : Graph → NodeId → α} {answer : α} (node : NodeId)
    (same : node ∈ store.graph.nodes → answer = view store.graph node) :
    (do store.requireNode node; return answer : Except Failure α) =
      store.graph.atNode view node := by
  rw [requireNode_eq, Graph.atNode]
  by_cases held : node ∈ store.graph.nodes
  · rw [same held]
  · rw [Graph.requireNode_of_not_mem held]
    rfl

theorem opposite_eq (store : Store σ) (edge : EdgeId) (node : NodeId) :
    store.opposite edge node = store.graph.opposite edge node := by
  unfold opposite Graph.opposite
  rw [endpoints_eq]
  cases store.graph.edge edge with
  | ok e => rfl
  | error failure => rfl

/-- A list of checks that pass passes. -/
theorem mapM_of_ok {β : Type} {l : List α} {check : α → Except Failure β} {answer : α → β}
    (each : ∀ a ∈ l, check a = .ok (answer a)) : l.mapM check = .ok (l.map answer) := by
  induction l with
  | nil => rfl
  | cons a rest ih =>
    rw [List.mapM_cons, each a List.mem_cons_self, ih fun b held => each b (.tail a held)]
    rfl

namespace InStep

/-- The arcs at a node are as many as the edges there. -/
theorem length_arcs (inStep : store.InStep) {arcs : List Arc} (distinct : arcs.Nodup)
    {p : Edge → Bool} (told : ∀ arc : Arc, arc ∈ arcs ↔ arc ∈ Adjacency.arcs store.adjacency ∧
      p ⟨arc.2.2, arc.1, arc.2.1⟩ = true) :
    arcs.length = store.graph.edges.countP p := by
  have edges : (store.graph.edges.filter p).Nodup := inStep.wellFormed.ids_nodup.of_map.filter _
  have renamed : (arcs.map fun arc => (⟨arc.2.2, arc.1, arc.2.1⟩ : Edge)).Nodup := by
    refine distinct.map fun arc other same => ?_
    simp only [Edge.mk.injEq] at same
    exact Prod.ext same.2.1 (Prod.ext same.2.2 same.1)
  have same : (arcs.map fun arc => (⟨arc.2.2, arc.1, arc.2.1⟩ : Edge)).Perm
      (store.graph.edges.filter p) := by
    refine (List.perm_ext_iff_of_nodup renamed edges).mpr fun e => ?_
    rw [List.mem_map, List.mem_filter]
    constructor
    · rintro ⟨arc, listed, rfl⟩
      obtain ⟨there, fits⟩ := (told arc).mp listed
      exact ⟨inStep.arc_iff_edge.mp there, fits⟩
    · rintro ⟨member, fits⟩
      exact ⟨(e.source, e.target, e.id), (told _).mpr ⟨inStep.arc_iff_edge.mpr member, fits⟩, rfl⟩
  rw [List.countP_eq_length_filter, ← same.length_eq, List.length_map]

/-- There is an arc one way exactly if an edge runs that way. -/
theorem exists_arc_iff (inStep : store.InStep) (u v : NodeId) :
    (∃ key, (u, v, key) ∈ Adjacency.arcs store.adjacency) ↔
      ∃ e ∈ store.graph.edges, e.runs u v = true := by
  simp only [inStep.arc_iff_edge, Edge.runs, Bool.and_eq_true, decide_eq_true_eq]
  constructor
  · rintro ⟨key, member⟩
    exact ⟨_, member, rfl, rfl⟩
  · rintro ⟨e, member, rfl, rfl⟩
    exact ⟨e.id, member⟩

/-- The keys of the arcs one way are the handles of the edges that run that way. -/
theorem mem_keys (inStep : store.InStep) (u v : NodeId) (edge : EdgeId) :
    edge ∈ Adjacency.keys store.adjacency u v ↔
      ∃ e ∈ store.graph.edges, e.runs u v = true ∧ e.id = edge := by
  have arc : edge ∈ Adjacency.keys store.adjacency u v ↔
      (u, v, edge) ∈ Adjacency.arcs store.adjacency := Iff.rfl
  simp only [arc, inStep.arc_iff_edge, Edge.runs, Bool.and_eq_true, decide_eq_true_eq]
  constructor
  · intro member
    exact ⟨_, member, ⟨rfl, rfl⟩, rfl⟩
  · rintro ⟨e, member, ⟨rfl, rfl⟩, rfl⟩
    exact member

/-- The least of the keys is the handle of the first edge. -/
theorem findEdge_eq (inStep : store.InStep) (u v : NodeId) (directed : Bool) :
    store.findEdge u v directed = store.graph.findEdge u v directed := by
  have told : ∀ edge, edge ∈ Adjacency.keys store.adjacency u v ++
      (if directed then [] else Adjacency.keys store.adjacency v u) ↔
        ∃ e ∈ store.graph.edges, (if directed then e.runs u v else e.joins u v) = true ∧
          e.id = edge := by
    intro edge
    rw [List.mem_append, inStep.mem_keys]
    cases directed with
    | true => simp
    | false =>
      simp only [Bool.false_eq_true, if_false, inStep.mem_keys, Edge.joins, Bool.or_eq_true,
        or_and_right, and_or_left, exists_or]
  have least : (Adjacency.keys store.adjacency u v ++
      if directed then [] else Adjacency.keys store.adjacency v u).min? =
        (store.graph.edges.find? fun e =>
          if directed then e.runs u v else e.joins u v).map Edge.id := by
    ext edge
    rw [List.min?_eq_some_iff, Option.map_eq_some_iff, told]
    constructor
    · rintro ⟨⟨e, member, fits, rfl⟩, first⟩
      refine ⟨e, ?_, rfl⟩
      refine (find?_eq_some_iff_least inStep.wellFormed.edges_increasing).mpr ⟨member, fits, ?_⟩
      exact fun other there joined => first other.id ((told other.id).mpr ⟨other, there, joined, rfl⟩)
    · rintro ⟨e, found, rfl⟩
      obtain ⟨member, fits, first⟩ :=
        (find?_eq_some_iff_least inStep.wellFormed.edges_increasing).mp found
      refine ⟨⟨e, member, fits, rfl⟩, fun edge listed => ?_⟩
      obtain ⟨other, there, joined, rfl⟩ := (told edge).mp listed
      exact first other there joined
  exact congrArg (fun found => (do
    store.graph.requireNode u
    store.graph.requireNode v
    return found : Except Failure (Option EdgeId))) least

variable [LawfulAdjacency σ]

/-- The degree that the adjacency structure counts is that of the graph. -/
theorem degree_eq (inStep : store.InStep) (held : u ∈ store.graph.nodes) :
    Adjacency.degree store.adjacency u = store.graph.degree u := by
  have leaving := inStep.length_arcs (LawfulAdjacency.leaving_nodup store.adjacency u held)
    (p := fun e => e.source = u) fun arc => by
      rw [LawfulAdjacency.mem_leaving store.adjacency u arc held, decide_eq_true_eq]
  have reaching := inStep.length_arcs (LawfulAdjacency.reaching_nodup store.adjacency u held)
    (p := fun e => e.target = u) fun arc => by
      rw [LawfulAdjacency.mem_reaching store.adjacency u arc held, decide_eq_true_eq]
  rw [LawfulAdjacency.degree_eq store.adjacency u held, leaving, reaching, Graph.degree]

/-- The nodes to which arcs lead and those from which they come are the neighbours. -/
theorem neighbours_eq (inStep : store.InStep) (held : u ∈ store.graph.nodes) :
    (Adjacency.successors store.adjacency u).toFinset ∪
        (Adjacency.predecessors store.adjacency u).toFinset =
      (store.graph.neighbours u).toFinset := by
  ext v
  rw [Finset.mem_union, List.mem_toFinset, List.mem_toFinset, List.mem_toFinset,
    LawfulAdjacency.mem_successors store.adjacency u v held,
    LawfulAdjacency.mem_predecessors store.adjacency u v held, inStep.exists_arc_iff,
    inStep.exists_arc_iff, Graph.neighbours, List.mem_filter, Graph.adjacent, List.any_eq_true]
  simp only [Edge.joins, Bool.or_eq_true]
  constructor
  · rintro (⟨e, member, onward⟩ | ⟨e, member, back⟩)
    · refine ⟨?_, e, member, .inl onward⟩
      simp only [Edge.runs, Bool.and_eq_true, decide_eq_true_eq] at onward
      exact onward.2 ▸ (inStep.wellFormed.ends_mem e member).2
    · refine ⟨?_, e, member, .inr back⟩
      simp only [Edge.runs, Bool.and_eq_true, decide_eq_true_eq] at back
      exact back.1 ▸ (inStep.wellFormed.ends_mem e member).1
  · rintro ⟨_, e, member, onward | back⟩
    · exact .inl ⟨e, member, onward⟩
    · exact .inr ⟨e, member, back⟩

/-- Looking up the edges at a node one by one gives their incidences. -/
theorem incidences_eq (inStep : store.InStep) (node : NodeId) :
    store.incidences node = store.graph.atNode Graph.incidences node := by
  have looked : ∀ e ∈ store.graph.incidentEdges node,
      (store.incidencesOf node ∘ Edge.id) e = .ok (e.incidencesAt node) := by
    intro e incident
    have entry := mem_edges_graph.mp (List.mem_filter.mp incident).1
    rw [Function.comp_apply, incidencesOf, Table.fetch, inStep.get?_of_mem entry]
    rfl
  unfold incidences
  rw [inStep.incidentEdges_eq]
  by_cases held : node ∈ store.graph.nodes
  · have entries := List.mapM_map.trans (mapM_of_ok looked)
    rw [Graph.atNode_of_mem _ held, Graph.atNode_of_mem _ held, Graph.incidences,
      List.flatMap_def]
    exact congrArg (fun entries => entries >>= fun entries => return entries.flatten) entries
  · rw [Graph.atNode, Graph.atNode, Graph.requireNode_of_not_mem held]
    rfl

theorem answers (inStep : store.InStep) : store.Answers where
  endpoints_eq := Store.endpoints_eq store
  opposite_eq := Store.opposite_eq store
  incidentEdges_eq := inStep.incidentEdges_eq
  incidences_eq := inStep.incidences_eq
  neighbours_eq node := atNode_eq node inStep.neighbours_eq
  degree_eq node := atNode_eq node inStep.degree_eq
  later_eq node := atNode_eq node fun _ => rfl
  findEdge_eq := inStep.findEdge_eq

end InStep

end Store

/-! ## Arcs in a list -/

/-- An adjacency structure that has its arcs in one list. -/
structure ArcList where
  nodes : List NodeId
  arcs : List Arc
  distinct : arcs.Nodup

namespace ArcList

variable {s : ArcList} {u v : NodeId} {arc : Arc}

def withNode (s : ArcList) (node : NodeId) : ArcList :=
  { s with nodes := if node ∈ s.nodes then s.nodes else s.nodes ++ [node] }

def withoutNode (s : ArcList) (node : NodeId) : ArcList where
  nodes := s.nodes.filter fun other => other ≠ node
  arcs := s.arcs.filter fun arc => arc.1 ≠ node ∧ arc.2.1 ≠ node
  distinct := s.distinct.filter _

/-- Arcs that are there are not added again. -/
def withArc (s : ArcList) (arc : Arc) : ArcList where
  nodes := ((s.withNode arc.1).withNode arc.2.1).nodes
  arcs := if arc ∈ s.arcs then s.arcs else s.arcs ++ [arc]
  distinct := by
    split
    · exact s.distinct
    · rename_i new
      exact s.distinct.append (List.nodup_singleton arc) (List.disjoint_singleton.mpr new)

def withoutArc (s : ArcList) (arc : Arc) : ArcList where
  nodes := s.nodes
  arcs := s.arcs.filter fun other => other ≠ arc
  distinct := s.distinct.filter _

/-- The arcs from one node to another. -/
def between (s : ArcList) (u v : NodeId) : List Arc :=
  s.arcs.filter fun arc => arc.1 = u ∧ arc.2.1 = v

/-- The nodes to which arcs of a node lead, in the order of the first arcs. -/
def targets (s : ArcList) (u : NodeId) : List NodeId :=
  ((s.arcs.filter fun arc => arc.1 = u).map fun arc => arc.2.1).eraseDups

/-- The nodes from which arcs lead to a node, in the order of the first arcs. -/
def sources (s : ArcList) (u : NodeId) : List NodeId :=
  ((s.arcs.filter fun arc => arc.2.1 = u).map fun arc => arc.1).eraseDups

/-- Arcs are listed node by node. -/
def leaving (s : ArcList) (u : NodeId) : List Arc := (s.targets u).flatMap fun v => s.between u v

def reaching (s : ArcList) (u : NodeId) : List Arc := (s.sources u).flatMap fun v => s.between v u

instance : Adjacency ArcList where
  empty := ⟨[], [], .nil⟩
  copy s := s
  nodes := nodes
  addNode node := modify (withNode · node)
  removeNode node := do
    if node ∈ (← get).nodes then modify (withoutNode · node) else throw (.missingNode node)
  addArc arc := modify (withArc · arc)
  removeArc arc := do
    if arc ∈ (← get).arcs then modify (withoutArc · arc) else throw (.missingEdge arc.2.2)
  clear := modify fun _ => ⟨[], [], .nil⟩
  keys s u v := (s.between u v).map fun arc => arc.2.2
  leaving := leaving
  reaching := reaching
  successors := targets
  predecessors := sources
  degree s u := (s.leaving u).length + (s.reaching u).length

theorem mem_between : arc ∈ s.between u v ↔ arc ∈ s.arcs ∧ arc.1 = u ∧ arc.2.1 = v := by
  rw [between, List.mem_filter, decide_eq_true_eq]

/-- The arcs that the keys tell of are those of the list. -/
theorem arcs_eq (s : ArcList) : Adjacency.arcs s = {arc | arc ∈ s.arcs} := by
  ext ⟨u, v, key⟩
  have keys : (u, v, key) ∈ Adjacency.arcs s ↔ key ∈ (s.between u v).map fun arc => arc.2.2 :=
    Iff.rfl
  rw [keys, List.mem_map]
  constructor
  · rintro ⟨⟨_, _, _⟩, listed, rfl⟩
    obtain ⟨member, rfl, rfl⟩ := mem_between.mp listed
    exact member
  · intro member
    exact ⟨_, mem_between.mpr ⟨member, rfl, rfl⟩, rfl⟩

theorem mem_targets : v ∈ s.targets u ↔ ∃ key, (u, v, key) ∈ s.arcs := by
  rw [targets, List.mem_eraseDups, List.mem_map]
  constructor
  · rintro ⟨⟨_, _, key⟩, chosen, rfl⟩
    obtain ⟨member, source⟩ := List.mem_filter.mp chosen
    obtain rfl := of_decide_eq_true source
    exact ⟨key, member⟩
  · rintro ⟨key, member⟩
    exact ⟨_, List.mem_filter.mpr ⟨member, decide_eq_true rfl⟩, rfl⟩

theorem mem_sources : v ∈ s.sources u ↔ ∃ key, (v, u, key) ∈ s.arcs := by
  rw [sources, List.mem_eraseDups, List.mem_map]
  constructor
  · rintro ⟨⟨_, _, key⟩, chosen, rfl⟩
    obtain ⟨member, target⟩ := List.mem_filter.mp chosen
    obtain rfl := of_decide_eq_true target
    exact ⟨key, member⟩
  · rintro ⟨key, member⟩
    exact ⟨_, List.mem_filter.mpr ⟨member, decide_eq_true rfl⟩, rfl⟩

theorem mem_leaving : arc ∈ s.leaving u ↔ arc ∈ s.arcs ∧ arc.1 = u := by
  rw [leaving, List.mem_flatMap]
  simp only [mem_between, mem_targets]
  constructor
  · rintro ⟨v, _, member, source, _⟩
    exact ⟨member, source⟩
  · rintro ⟨member, rfl⟩
    exact ⟨arc.2.1, ⟨arc.2.2, member⟩, member, rfl, rfl⟩

theorem mem_reaching : arc ∈ s.reaching u ↔ arc ∈ s.arcs ∧ arc.2.1 = u := by
  rw [reaching, List.mem_flatMap]
  simp only [mem_between, mem_sources]
  constructor
  · rintro ⟨v, _, member, _, target⟩
    exact ⟨member, target⟩
  · rintro ⟨member, rfl⟩
    exact ⟨arc.1, ⟨arc.2.2, member⟩, member, rfl, rfl⟩

/-- No arc is listed twice, node by node. -/
theorem nodup_flatMap_between {nodes : List NodeId} (distinct : nodes.Nodup)
    {ends : NodeId → NodeId × NodeId} (apart : Function.Injective ends) :
    (nodes.flatMap fun v => s.between (ends v).1 (ends v).2).Nodup := by
  rw [List.nodup_flatMap]
  constructor
  · exact fun v _ => s.distinct.filter _
  · refine distinct.imp fun {v w} other arc here there => ?_
    obtain ⟨_, source, target⟩ := mem_between.mp here
    obtain ⟨_, source', target'⟩ := mem_between.mp there
    exact other (apart (Prod.ext (source.symm.trans source') (target.symm.trans target')))

theorem nodup_eraseDups (l : List NodeId) : l.eraseDups.Nodup := by
  have keys := Table.keys_ofList (l.map fun node => (node, ()))
  have distinct := Table.nodup_keys_ofList (l.map fun node => (node, ()))
  rw [keys, List.map_map, Function.comp_def, List.map_id'] at distinct
  exact distinct

theorem withNode_of_mem (held : u ∈ s.nodes) : s.withNode u = s := by rw [withNode, if_pos held]

theorem nodes_withArc (source : arc.1 ∈ s.nodes) (target : arc.2.1 ∈ s.nodes) :
    (s.withArc arc).nodes = s.nodes := by
  rw [withArc, withNode_of_mem source, withNode_of_mem target]

theorem arcs_withArc (new : arc ∉ s.arcs) : (s.withArc arc).arcs = s.arcs ++ [arc] := if_neg new

instance : LawfulAdjacency ArcList where
  nodes_empty := rfl
  arcs_empty := by
    rw [arcs_eq]
    exact Set.eq_empty_of_forall_notMem fun _ => List.not_mem_nil
  nodes_copy _ := rfl
  arcs_copy _ := rfl
  addNode_leaves s node foreign := by
    refine ⟨s.withNode node, rfl, if_neg foreign, ?_⟩
    rw [arcs_eq, arcs_eq]
    rfl
  removeNode_leaves s node held := by
    refine ⟨s.withoutNode node, congrFun (if_pos held) s, rfl, ?_⟩
    rw [arcs_eq, arcs_eq]
    ext arc
    simp [withoutNode]
  addArc_leaves s arc source target new := by
    rw [arcs_eq] at new
    refine ⟨s.withArc arc, rfl, nodes_withArc source target, ?_⟩
    rw [arcs_eq, arcs_eq, arcs_withArc new]
    ext other
    simp [or_comm]
  removeArc_leaves s arc there := by
    rw [arcs_eq] at there
    refine ⟨s.withoutArc arc, congrFun (if_pos there) s, rfl, ?_⟩
    rw [arcs_eq, arcs_eq]
    ext other
    simp [withoutArc]
  clear_leaves s := by
    refine ⟨⟨[], [], .nil⟩, rfl, rfl, ?_⟩
    rw [arcs_eq]
    exact Set.eq_empty_of_forall_notMem fun _ => List.not_mem_nil
  leaving_nodup s u _ :=
    nodup_flatMap_between (nodup_eraseDups _) fun _ _ same => (Prod.mk.inj same).2
  mem_leaving s u arc _ := by
    rw [arcs_eq]
    exact mem_leaving
  reaching_nodup s u _ :=
    nodup_flatMap_between (nodup_eraseDups _) fun _ _ same => (Prod.mk.inj same).1
  mem_reaching s u arc _ := by
    rw [arcs_eq]
    exact mem_reaching
  mem_successors s u v _ := by
    rw [arcs_eq]
    exact mem_targets
  mem_predecessors s u v _ := by
    rw [arcs_eq]
    exact mem_sources
  degree_eq _ _ _ := rfl

end ArcList

end Multigraph
