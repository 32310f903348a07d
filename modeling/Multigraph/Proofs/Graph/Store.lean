import Multigraph.Graph.Store
import Multigraph.Proofs.Action.Loop
import Multigraph.Proofs.Graph.Deleting
import Multigraph.Proofs.Graph.Drawing
import Multigraph.Proofs.Table

/-!
The two stores of a graph keep in step. `InStep` says that the adjacency structure has an arc for
each entry of the table and no other, and that the graph which both make up is well-formed. Every
change of the stores does to this graph what the change of graphs that bears its name does, answers
and refusals included, and leaves the stores in step again (`Mirrors`). So they are in step in
whatever has been made of empty graphs (`Reachable.inStep`), and as every primitive change of a graph
is one of these changes, every graph that has grown out of the empty one is kept in such stores
(`exists_stored`).
-/
namespace Multigraph.Store

open Multigraph.Action

variable {σ α β : Type} {store : Store σ}

/-! ## Removing entries of the table -/

/-- An edge that is in the table is removed from it. -/
theorem dropEntry_run {edge : EdgeId} {ends : NodeId × NodeId}
    (found : store.ends.get? edge = some ends) :
    dropEntry edge store = .ok () { store with ends := store.ends.erase edge } := by
  have fetched : store.ends.fetch edge = .ok ends := by rw [Table.fetch, found]
  exact bind_of_ok (query_of_ok fetched)

/-- Edges that are in the table are removed from it one by one. -/
theorem dropEntries_run {edges : List EdgeId} (distinct : edges.Nodup)
    (held : ∀ edge ∈ edges, ∃ ends, store.ends.get? edge = some ends) :
    edges.forM dropEntry store =
      .ok () { store with ends := ⟨store.ends.entries.filter fun entry => entry.1 ∉ edges⟩ } := by
  induction edges generalizing store with
  | nil =>
    simp only [List.not_mem_nil, not_false_eq_true, decide_true, List.filter_true]
    rfl
  | cons edge rest ih =>
    obtain ⟨new, others⟩ := List.nodup_cons.mp distinct
    obtain ⟨ends, found⟩ := held edge List.mem_cons_self
    have kept : ∀ other ∈ rest, ∃ ends, (store.ends.erase edge).get? other = some ends := by
      intro other listed
      have apart : edge ≠ other := fun same => new (same ▸ listed)
      rw [Table.get?_erase, if_neg apart]
      exact held other (List.mem_cons_of_mem edge listed)
    have onward := @ih { store with ends := store.ends.erase edge } others kept
    apply Eq.trans (bind_of_ok (dropEntry_run found))
    apply Eq.trans onward
    simp only [Table.erase, List.filter_filter, List.mem_cons, not_or, Bool.decide_and,
      Bool.and_comm]

variable [Adjacency σ]

/-- The adjacency structure and the table tell of the same edges. -/
structure InStep (store : Store σ) : Prop where
  wellFormed : store.graph.WellFormed
  arc_iff : ∀ u v edge, (u, v, edge) ∈ Adjacency.arcs store.adjacency ↔
    (edge, u, v) ∈ store.ends.entries

/-! ## Entries of the table -/

theorem ids_graph (store : Store σ) : store.graph.edges.map Edge.id = store.ends.keys := by
  simp only [graph, List.map_map]
  rfl

theorem mem_edges_graph {e : Edge} :
    e ∈ store.graph.edges ↔ (e.id, e.source, e.target) ∈ store.ends.entries := by
  simp only [graph, List.mem_map]
  constructor
  · rintro ⟨entry, held, rfl⟩
    exact held
  · intro held
    exact ⟨_, held, rfl⟩

/-- An edge is looked up in the table. -/
theorem edge?_graph (store : Store σ) (edge : EdgeId) :
    store.graph.edge? edge = (store.ends.get? edge).map fun ends => edgeOf (edge, ends) := by
  simp only [Graph.edge?, graph, Table.get?]
  induction store.ends.entries with
  | nil => rfl
  | cons entry rest ih =>
    by_cases same : entry.1 = edge
    · simp [Table.lookup, edgeOf, same]
    · simpa [Table.lookup, edgeOf, same] using ih

/-- The ends of an edge are found in the table as those of the edge are in the graph. -/
theorem endpoints_eq (store : Store σ) (edge : EdgeId) :
    store.endpoints edge = (store.graph.edge edge).map Edge.ends := by
  rw [Graph.edge, edge?_graph, endpoints]
  cases store.ends.get? edge with
  | none => rfl
  | some ends => rfl

namespace InStep

theorem keys_nodup (inStep : store.InStep) : store.ends.keys.Nodup :=
  ids_graph store ▸ inStep.wellFormed.ids_nodup

/-- An entry of the table is found under its handle. -/
theorem get?_of_mem (inStep : store.InStep) {edge : EdgeId} {ends : NodeId × NodeId}
    (held : (edge, ends) ∈ store.ends.entries) : store.ends.get? edge = some ends :=
  Table.lookup_of_mem inStep.keys_nodup held

/-- The arcs are the edges of the graph. -/
theorem arc_iff_edge (inStep : store.InStep) {arc : Arc} :
    arc ∈ Adjacency.arcs store.adjacency ↔ ⟨arc.2.2, arc.1, arc.2.1⟩ ∈ store.graph.edges :=
  (inStep.arc_iff arc.1 arc.2.1 arc.2.2).trans
    (mem_edges_graph (e := ⟨arc.2.2, arc.1, arc.2.1⟩)).symm

/-- The next handle is not in the table yet. -/
theorem fresh (inStep : store.InStep) : store.nextEdge ∉ store.ends.keys := by
  intro held
  rw [← ids_graph, List.mem_map] at held
  obtain ⟨e, member, same⟩ := held
  exact Int.ne_of_lt (inStep.wellFormed.edges_below e member).2 same

end InStep

/-- The table without the edges at a node. -/
def endsAway (store : Store σ) (node : NodeId) : Table EdgeId (NodeId × NodeId) :=
  ⟨store.ends.entries.filter fun entry =>
    entry.1 ∉ (store.graph.incidentEdges node).map Edge.id⟩

/-- The table keeps the edges that the graph keeps when a node goes. -/
theorem edges_endsAway (inStep : store.InStep) (node : NodeId) :
    (store.endsAway node).entries.map edgeOf = (store.graph.withoutNode node).edges := by
  have others := congrArg Graph.edges
    (Graph.withoutEdges_filter inStep.wellFormed.ids_nodup fun e => e.touches node)
  simp only [graph, Graph.withoutNode, Graph.withoutEdges, endsAway] at others ⊢
  rw [← others, List.filter_map]
  rfl

/-! ## Actions on the stores and on the graph -/

/-- The result of an action as the graph shows it. -/
def shown : EStateM.Result Failure (Store σ) α → EStateM.Result Failure Graph α
  | .ok answer reached => .ok answer reached.graph
  | .error failure reached => .error failure reached.graph

/-- An action on stores in step does to the graph what another action does, and leaves the stores in
step, whether it succeeds or fails. -/
def Mirrors (action : Action (Store σ) α) (other : Action Graph α) : Prop :=
  ∀ store : Store σ, store.InStep →
    other store.graph = shown (action store) ∧ (action.after store).InStep

theorem Mirrors.after_eq {action : Action (Store σ) α} {other : Action Graph α}
    (mirrors : Mirrors action other) (inStep : store.InStep) :
    (action.after store).graph = other.after store.graph := by
  have same := (mirrors store inStep).1
  cases ran : action store with
  | ok answer reached =>
    rw [ran] at same
    rw [after_of_ok ran, after_of_ok same]
  | error failure reached =>
    rw [ran] at same
    rw [after_of_error ran, after_of_error same]

/-- An action that succeeds mirrors another in a state where this succeeds alike. -/
theorem mirrored_of_ok {action : Action (Store σ) α} {other : Action Graph α} {answer : α}
    {reached : Store σ} {next : Graph} (ran : action store = .ok answer reached)
    (there : other store.graph = .ok answer next) (same : reached.graph = next)
    (wf : next.WellFormed)
    (arc_iff : ∀ u v edge, (u, v, edge) ∈ Adjacency.arcs reached.adjacency ↔
      (edge, u, v) ∈ reached.ends.entries) :
    other store.graph = shown (action store) ∧ (action.after store).InStep := by
  subst same
  rw [after_of_ok ran, ran]
  exact ⟨there, wf, arc_iff⟩

/-- An action that is refused mirrors another in a state where this is refused alike. -/
theorem mirrored_of_error {action : Action (Store σ) α} {other : Action Graph α}
    {failure : Failure} (ran : action store = .error failure store)
    (there : other store.graph = .error failure store.graph) (inStep : store.InStep) :
    other store.graph = shown (action store) ∧ (action.after store).InStep := by
  rw [after_of_error ran, ran]
  exact ⟨there, inStep⟩

theorem mirrors_pure (answer : α) : Mirrors (pure answer : Action (Store σ) α) (pure answer) :=
  fun _ inStep => ⟨rfl, inStep⟩

theorem mirrors_ofExcept (checked : Except Failure α) :
    Mirrors (Action.ofExcept checked : Action (Store σ) α) (Action.ofExcept checked) := by
  intro store inStep
  cases checked with
  | ok answer => exact ⟨rfl, inStep⟩
  | error failure => exact ⟨rfl, inStep⟩

theorem mirrors_bind {action : Action (Store σ) α} {other : Action Graph α}
    {next : α → Action (Store σ) β} {onward : α → Action Graph β} (first : Mirrors action other)
    (rest : ∀ answer, Mirrors (next answer) (onward answer)) :
    Mirrors (action >>= next) (other >>= onward) := by
  intro store inStep
  obtain ⟨same, between⟩ := first store inStep
  cases ran : action store with
  | ok answer reached =>
    rw [ran] at same
    rw [after_of_ok ran] at between
    rw [after_congr (bind_of_ok ran), bind_of_ok ran, bind_of_ok same]
    exact rest answer reached between
  | error failure reached =>
    rw [ran] at same
    rw [after_of_error ran] at between
    rw [after_of_error (bind_of_error ran), bind_of_error ran, bind_of_error same]
    exact ⟨rfl, between⟩

theorem mirrors_mapM {l : List α} {pass : α → Action (Store σ) β} {other : α → Action Graph β}
    (each : ∀ a ∈ l, Mirrors (pass a) (other a)) : Mirrors (l.mapM pass) (l.mapM other) := by
  induction l with
  | nil => exact mirrors_pure []
  | cons a rest ih =>
    rw [List.mapM_cons, List.mapM_cons]
    exact mirrors_bind (each a List.mem_cons_self) fun b =>
      mirrors_bind (ih fun c held => each c (List.mem_cons_of_mem a held)) fun rest =>
        mirrors_pure (b :: rest)

/-! ## Checks -/

variable {u v node : NodeId}

theorem requireNode_eq (store : Store σ) (node : NodeId) :
    store.requireNode node = store.graph.requireNode node := rfl

/-- An action goes on after the check of a node that is there. -/
theorem require_of_mem (held : node ∈ store.graph.nodes) (next : Unit → Action (Store σ) α) :
    (query (fun store : Store σ => store.requireNode node) >>= next) store = next () store :=
  bind_of_ok (query_of_ok (if_pos held))

/-- It ends with the check of a foreign one. -/
theorem require_of_not_mem (foreign : node ∉ store.graph.nodes)
    (next : Unit → Action (Store σ) α) :
    (query (fun store : Store σ => store.requireNode node) >>= next) store =
      .error (.missingNode node) store :=
  bind_of_error (query_of_error (if_neg foreign))

/-! ## The edges at a node -/

variable [LawfulAdjacency σ]

/-- The edges that leave or reach a node are told by the arcs that do. -/
theorem InStep.mem_incident (inStep : store.InStep) (held : u ∈ store.graph.nodes) {edge : EdgeId} :
    edge ∈ ((Adjacency.leaving store.adjacency u).map fun arc => arc.2.2).toFinset ∪
        ((Adjacency.reaching store.adjacency u).map fun arc => arc.2.2).toFinset ↔
      ∃ e ∈ store.graph.edges, e.touches u = true ∧ e.id = edge := by
  simp only [Finset.mem_union, List.mem_toFinset, List.mem_map,
    LawfulAdjacency.mem_leaving store.adjacency u _ held,
    LawfulAdjacency.mem_reaching store.adjacency u _ held, inStep.arc_iff_edge, Edge.touches,
    Bool.or_eq_true, decide_eq_true_eq]
  constructor
  · rintro (⟨arc, ⟨member, source⟩, rfl⟩ | ⟨arc, ⟨member, target⟩, rfl⟩)
    · exact ⟨_, member, .inl source, rfl⟩
    · exact ⟨_, member, .inr target, rfl⟩
  · rintro ⟨e, member, source | target, rfl⟩
    · exact .inl ⟨(e.source, e.target, e.id), ⟨member, source⟩, rfl⟩
    · exact .inr ⟨(e.source, e.target, e.id), ⟨member, target⟩, rfl⟩

/-- The sorted handles of the edges at a node are those of its edges in their order. -/
theorem InStep.incidentEdges_eq (inStep : store.InStep) (node : NodeId) :
    store.incidentEdges node =
      store.graph.atNode (fun g u => (g.incidentEdges u).map Edge.id) node := by
  by_cases held : node ∈ store.graph.nodes
  · have sorted := Finset.sortedLT_sort
      (((Adjacency.leaving store.adjacency node).map fun arc => arc.2.2).toFinset ∪
        ((Adjacency.reaching store.adjacency node).map fun arc => arc.2.2).toFinset)
    have increasing : ((store.graph.incidentEdges node).map Edge.id).Pairwise (· < ·) :=
      List.pairwise_map.mpr (inStep.wellFormed.edges_increasing.filter _)
    have same := sorted.pairwise.eq_of_mem_iff increasing fun edge => by
      rw [Finset.mem_sort, inStep.mem_incident held]
      simp only [Graph.incidentEdges, List.mem_map, List.mem_filter, and_assoc]
    unfold incidentEdges Graph.atNode
    rw [requireNode_eq, Graph.requireNode_of_mem held]
    exact congrArg Except.ok same
  · unfold incidentEdges Graph.atNode
    rw [requireNode_eq, Graph.requireNode_of_not_mem held]
    rfl

/-! ## The changes -/

theorem newNode_mirrors : Mirrors (newNode : Action (Store σ) NodeId) Graph.newNode := by
  intro store inStep
  have fresh : store.nextNode ∉ Adjacency.nodes store.adjacency := fun held =>
    Int.lt_irrefl _ (inStep.wellFormed.nodes_below _ held).2
  obtain ⟨later, added, nodes, arcs⟩ :=
    LawfulAdjacency.addNode_leaves store.adjacency store.nextNode fresh
  have ran : newNode store = .ok store.nextNode
      { store with adjacency := later, nextNode := store.nextNode + 1 } := by
    unfold newNode
    rw [get_bind_run, modify_bind_run]
    exact bind_of_ok (within_of_ok added)
  have grown : ({ store with adjacency := later, nextNode := store.nextNode + 1 } : Store σ).graph =
      store.graph.withNode := by
    simp only [graph, Graph.withNode, nodes]
  refine mirrored_of_ok ran Graph.newNode_run grown inStep.wellFormed.withNode fun u v edge => ?_
  rw [arcs]
  exact inStep.arc_iff u v edge

/-- A new edge between nodes is added to both stores. -/
theorem newEdge_run (inStep : store.InStep) (held : u ∈ store.graph.nodes)
    (reached : v ∈ store.graph.nodes) :
    ∃ later,
      newEdge u v store = .ok store.nextEdge
        { store with
          adjacency := later
          ends := store.ends.insert store.nextEdge (u, v)
          nextEdge := store.nextEdge + 1 } ∧
      Adjacency.nodes later = Adjacency.nodes store.adjacency ∧
      Adjacency.arcs later =
        Insert.insert (u, v, store.nextEdge) (Adjacency.arcs store.adjacency) := by
  have new : (u, v, store.nextEdge) ∉ Adjacency.arcs store.adjacency := by
    rw [inStep.arc_iff]
    exact fun entry => inStep.fresh (List.mem_map_of_mem entry)
  obtain ⟨later, added, nodes, arcs⟩ :=
    LawfulAdjacency.addArc_leaves store.adjacency (u, v, store.nextEdge) held reached new
  refine ⟨later, ?_, nodes, arcs⟩
  apply Eq.trans (require_of_mem held _)
  apply Eq.trans (require_of_mem reached _)
  rw [get_bind_run, modify_bind_run]
  exact .trans (bind_of_ok (within_of_ok added)) rfl

theorem newEdge_mirrors (source target : NodeId) :
    Mirrors (newEdge source target : Action (Store σ) EdgeId) (Graph.newEdge source target) := by
  intro store inStep
  by_cases held : source ∈ store.graph.nodes
  · by_cases reached : target ∈ store.graph.nodes
    · obtain ⟨later, ran, nodes, arcs⟩ := newEdge_run inStep held reached
      have entries : (store.ends.insert store.nextEdge (source, target)).entries =
          store.ends.entries ++ [(store.nextEdge, source, target)] :=
        Table.enter_fresh _ inStep.fresh
      refine mirrored_of_ok ran (Graph.newEdge_run held reached) ?_
        (inStep.wellFormed.withEdge held reached) fun u v edge => ?_
      · simp only [graph, Graph.withEdge, nodes, entries, List.map_append]
        rfl
      · rw [arcs, Set.mem_insert_iff, inStep.arc_iff, entries, List.mem_append,
          List.mem_singleton, Prod.mk.injEq, Prod.mk.injEq, Prod.mk.injEq, Prod.mk.injEq]
        tauto
    · apply mirrored_of_error
      · exact .trans (require_of_mem held _) (require_of_not_mem reached _)
      · exact Graph.newEdge_foreign_target held reached
      · exact inStep
  · apply mirrored_of_error
    · exact require_of_not_mem held _
    · exact Graph.newEdge_foreign_source held
    · exact inStep

/-- An edge that is in the table is removed from both stores. -/
theorem deleteEdge_run (inStep : store.InStep) {edge : EdgeId} {ends : NodeId × NodeId}
    (found : store.ends.get? edge = some ends) :
    ∃ later,
      deleteEdge edge store =
        .ok () { store with adjacency := later, ends := store.ends.erase edge } ∧
      Adjacency.nodes later = Adjacency.nodes store.adjacency ∧
      Adjacency.arcs later = Adjacency.arcs store.adjacency \ {(ends.1, ends.2, edge)} := by
  have known : store.endpoints edge = .ok ends := by rw [endpoints, found]
  have entry : (edge, ends) ∈ store.ends.entries := Table.mem_of_lookup found
  obtain ⟨later, removed, nodes, arcs⟩ :=
    LawfulAdjacency.removeArc_leaves store.adjacency (ends.1, ends.2, edge)
      ((inStep.arc_iff _ _ _).mpr entry)
  refine ⟨later, .trans (bind_of_ok (query_of_ok known)) ?_, nodes, arcs⟩
  exact .trans (bind_of_ok (within_of_ok removed)) (dropEntry_run found)

theorem deleteEdge_mirrors (edge : EdgeId) :
    Mirrors (deleteEdge edge : Action (Store σ) Unit) (Graph.deleteEdge edge) := by
  intro store inStep
  cases found : store.ends.get? edge with
  | none =>
    have missing : store.endpoints edge = .error (.missingEdge edge) := by
      rw [endpoints, found]
    have absent : store.graph.edge edge = .error (.missingEdge edge) := by
      rw [Graph.edge, edge?_graph, found]
      rfl
    apply mirrored_of_error
    · exact bind_of_error (query_of_error missing)
    · exact bind_of_error (query_of_error absent)
    · exact inStep
  | some ends =>
    obtain ⟨later, ran, nodes, arcs⟩ := deleteEdge_run inStep found
    have there : store.graph.edge? edge = some (edgeOf (edge, ends)) := by
      rw [edge?_graph, found]
      rfl
    refine mirrored_of_ok ran (Graph.deleteEdge_run there) ?_
      ((Graph.Change.loseEdge store.graph edge).wellFormed inStep.wellFormed) fun u v other => ?_
    · simp only [graph, Graph.withoutEdge, nodes, Table.erase, List.filter_map]
      rfl
    -- Only one entry bears the handle, so the arc that goes is the one with this key.
    have alone : (edge, u, v) ∈ store.ends.entries → (u, v) = ends := fun held =>
      Option.some.inj ((inStep.get?_of_mem held).symm.trans found)
    simp only [arcs, Set.mem_sdiff, Set.mem_singleton_iff, inStep.arc_iff, Table.erase,
      List.mem_filter, decide_eq_true_eq]
    refine and_congr_right fun held => not_congr ⟨?_, ?_⟩
    · intro same
      simp only [Prod.mk.injEq] at same
      exact same.2.2
    · rintro rfl
      obtain rfl := alone held
      rfl

/-- A node that is there is removed from both stores, with the edges at it. -/
theorem deleteNode_run (inStep : store.InStep) (held : node ∈ store.graph.nodes) :
    ∃ later,
      deleteNode node store =
        .ok () { store with adjacency := later, ends := store.endsAway node } ∧
      Adjacency.nodes later =
        (Adjacency.nodes store.adjacency).filter (fun other => other ≠ node) ∧
      Adjacency.arcs later =
        {arc ∈ Adjacency.arcs store.adjacency | arc.1 ≠ node ∧ arc.2.1 ≠ node} := by
  have listed : store.incidentEdges node = .ok ((store.graph.incidentEdges node).map Edge.id) := by
    rw [inStep.incidentEdges_eq, Graph.atNode, Graph.requireNode_of_mem held]
    rfl
  have distinct : ((store.graph.incidentEdges node).map Edge.id).Nodup :=
    inStep.wellFormed.ids_nodup.sublist (List.filter_sublist.map Edge.id)
  have known : ∀ edge ∈ (store.graph.incidentEdges node).map Edge.id,
      ∃ ends, store.ends.get? edge = some ends := by
    intro edge incident
    obtain ⟨e, chosen, rfl⟩ := List.mem_map.mp incident
    exact ⟨_, inStep.get?_of_mem (mem_edges_graph.mp (List.mem_filter.mp chosen).1)⟩
  obtain ⟨later, removed, nodes, arcs⟩ :=
    LawfulAdjacency.removeNode_leaves store.adjacency node held
  refine ⟨later, .trans (bind_of_ok (query_of_ok listed)) ?_, nodes, arcs⟩
  exact .trans (bind_of_ok (dropEntries_run distinct known)) (within_of_ok removed)

theorem deleteNode_mirrors (node : NodeId) :
    Mirrors (deleteNode node : Action (Store σ) Unit) (Graph.deleteNode node) := by
  intro store inStep
  by_cases held : node ∈ store.graph.nodes
  · obtain ⟨later, ran, nodes, arcs⟩ := deleteNode_run inStep held
    have edges := edges_endsAway inStep node
    refine mirrored_of_ok ran (Graph.deleteNode_run held) ?_ (inStep.wellFormed.withoutNode node)
      fun u v edge => ?_
    · rw [graph, nodes, edges]
      rfl
    · have kept : (edge, u, v) ∈ (store.endsAway node).entries ↔
          (⟨edge, u, v⟩ : Edge) ∈ (store.graph.withoutNode node).edges := by
        rw [← edges]
        exact (@mem_edges_graph _ { store with ends := store.endsAway node } _ ⟨edge, u, v⟩).symm
      rw [arcs, Set.mem_ofPred_eq, inStep.arc_iff, kept]
      simp only [Graph.withoutNode, List.mem_filter, mem_edges_graph, Edge.touches,
        Bool.not_eq_true', Bool.or_eq_false_iff, decide_eq_false_iff_not]
  · have refused : store.incidentEdges node = .error (.missingNode node) := by
      rw [inStep.incidentEdges_eq, Graph.atNode, Graph.requireNode_of_not_mem held]
      rfl
    apply mirrored_of_error
    · exact bind_of_error (query_of_error refused)
    · exact Graph.deleteNode_foreign held
    · exact inStep

theorem clear_mirrors : Mirrors (clear : Action (Store σ) Unit) Graph.clear := by
  intro store inStep
  obtain ⟨later, emptied, nodes, arcs⟩ := LawfulAdjacency.clear_leaves store.adjacency
  have ran : clear store = .ok () { store with adjacency := later, ends := ∅ } :=
    bind_of_ok (within_of_ok emptied)
  have left : ({ store with adjacency := later, ends := ∅ } : Store σ).graph =
      store.graph.cleared := by
    simp only [graph, Graph.cleared, nodes]
    rfl
  refine mirrored_of_ok ran rfl left
    ((Graph.Change.clear store.graph).wellFormed inStep.wellFormed) fun u v edge => ?_
  rw [arcs]
  exact iff_of_false (Set.notMem_empty _) List.not_mem_nil

theorem insert_mirrors {other : Store σ} (known : other.InStep) :
    Mirrors (insert other) (Graph.insert other.graph) := by
  have copied : ∀ image, ∀ e ∈ other.graph.edges,
      Mirrors (copyEdge other image e.id) (Graph.copyEdge image e) := by
    intro image e member
    have ends : other.endpoints e.id = .ok e.ends := by
      rw [endpoints_eq, Graph.edge_of_mem known.wellFormed.ids_nodup member]
      rfl
    unfold copyEdge
    rw [ends]
    exact mirrors_bind (mirrors_ofExcept _) fun source =>
      mirrors_bind (mirrors_ofExcept _) fun target =>
        mirrors_bind (newEdge_mirrors source target) fun edge => mirrors_pure (e.id, edge)
  have allCopied : ∀ image, Mirrors (other.ends.keys.mapM (copyEdge other image))
      (other.graph.edges.mapM (Graph.copyEdge image)) := by
    intro image
    rw [← ids_graph, List.mapM_map]
    exact mirrors_mapM (copied image)
  unfold insert Graph.insert
  apply mirrors_bind
  · apply mirrors_mapM
    exact fun node _ => mirrors_bind newNode_mirrors fun copy => mirrors_pure (node, copy)
  · exact fun nodes => mirrors_bind (allCopied _) fun edges => mirrors_pure _

/-! ## Copies -/

theorem graph_copy (store : Store σ) : store.copy.graph = store.graph := by
  simp only [graph, copy, LawfulAdjacency.nodes_copy]

theorem InStep.copy (inStep : store.InStep) : store.copy.InStep where
  wellFormed := graph_copy store ▸ inStep.wellFormed
  arc_iff u v edge := by
    simp only [Store.copy, LawfulAdjacency.arcs_copy]
    exact inStep.arc_iff u v edge

/-! ## Whole runs -/

theorem graph_empty : (empty : Store σ).graph = {} := by
  simp only [graph, empty, LawfulAdjacency.nodes_empty]
  rfl

/-- The stores of an empty graph are in step. -/
theorem inStep_empty : (empty : Store σ).InStep where
  wellFormed := graph_empty (σ := σ) ▸ Graph.wellFormed_empty
  arc_iff u v edge := by
    simp only [empty, LawfulAdjacency.arcs_empty]
    exact iff_of_false (Set.notMem_empty _) List.not_mem_nil

/-- Whatever has been made of empty graphs, the two stores are in step. -/
theorem Reachable.inStep (reached : store.Reachable) : store.InStep := by
  induction reached with
  | empty => exact inStep_empty
  | newNode _ ih => exact (newNode_mirrors _ ih).2
  | newEdge _ source target ih => exact (newEdge_mirrors source target _ ih).2
  | deleteEdge _ edge ih => exact (deleteEdge_mirrors edge _ ih).2
  | deleteNode _ node ih => exact (deleteNode_mirrors node _ ih).2
  | clear _ ih => exact (clear_mirrors _ ih).2
  | insert _ _ ih known => exact (insert_mirrors known _ ih).2
  | copy _ ih => exact ih.copy

/-- What a change makes of the graph, the change of the stores that mirrors it makes of them. -/
theorem Reachable.follow {action : Action (Store σ) α} {other : Action Graph α} {answer : α}
    {next : Graph} (reached : store.Reachable) (onward : (action.after store).Reachable)
    (mirrors : Mirrors action other) (ran : other store.graph = .ok answer next) :
    ∃ later : Store σ, later.Reachable ∧ later.graph = next :=
  ⟨_, onward, (mirrors.after_eq reached.inStep).trans (after_of_ok ran)⟩

/-- Every graph that has grown out of the empty one by primitive changes is kept in such stores. -/
theorem exists_stored {g : Graph} (grown : ({} : Graph).Becomes g) :
    ∃ store : Store σ, store.Reachable ∧ store.graph = g := by
  induction grown with
  | refl => exact ⟨empty, .empty, graph_empty⟩
  | tail _ change ih =>
    obtain ⟨store, reached, rfl⟩ := ih
    cases change with
    | node => exact reached.follow reached.newNode newNode_mirrors Graph.newNode_run
    | edge held ends =>
      exact reached.follow (reached.newEdge _ _) (newEdge_mirrors _ _) (Graph.newEdge_run held ends)
    | loseEdge edge =>
      cases found : store.graph.edge? edge with
      | some e =>
        have same : e.id = edge := by simpa using List.find?_some found
        subst same
        exact reached.follow (reached.deleteEdge _) (deleteEdge_mirrors _)
          (Graph.deleteEdge_run found)
      | none => exact ⟨store, reached, (Graph.withoutEdge_of_absent found).symm⟩
    | loseNode node =>
      by_cases held : node ∈ store.graph.nodes
      · exact reached.follow (reached.deleteNode node) (deleteNode_mirrors node)
          (Graph.deleteNode_run held)
      · have same := Graph.withoutNode_of_foreign reached.inStep.wellFormed held
        exact ⟨store, reached, same.symm⟩
    | clear => exact reached.follow reached.clear clear_mirrors rfl

end Multigraph.Store
