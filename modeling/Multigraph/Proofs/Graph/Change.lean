import Mathlib.Logic.Relation
import Multigraph.Graph.Parallel
import Multigraph.Proofs.Action.Keeps

/-!
How graphs change. A `Change` is one primitive step of a graph: a new node, a new edge between
nodes, the loss of an edge, the loss of a node with the edges at it, the loss of everything. A
graph becomes another by a number of changes. `Becomes.wellFormed` says that well-formedness
survives them, and `Becomes.follows` that handles are never reused: the counters do not fall, and
what the later graph lists was there before or bears a handle that had not been given out.

The last part shows of the actions on graphs that all they do is a number of changes, whether they
succeed or fail halfway.
-/
namespace Multigraph.Graph

/-- One primitive change of a graph. -/
inductive Change : Graph → Graph → Prop where
  | node (g : Graph) : Change g g.withNode
  | edge {g : Graph} {source target : NodeId} (held : source ∈ g.nodes)
      (reached : target ∈ g.nodes) : Change g (g.withEdge source target)
  | loseEdge (g : Graph) (edge : EdgeId) : Change g (g.withoutEdge edge)
  | loseNode (g : Graph) (node : NodeId) : Change g (g.withoutNode node)
  | clear (g : Graph) : Change g g.cleared

/-- A graph becomes another by a number of changes. -/
def Becomes : Graph → Graph → Prop := Relation.ReflTransGen Change

theorem Becomes.trans {f g h : Graph} (first : Becomes f g) (second : Becomes g h) :
    Becomes f h := Relation.ReflTransGen.trans first second

instance : IsPreorder Graph Becomes where
  refl _ := .refl
  trans _ _ _ := Becomes.trans

theorem Change.becomes {g h : Graph} (change : Change g h) : Becomes g h :=
  Relation.ReflTransGen.single change

/-- What a graph keeps of its past: counters do not fall, and what is listed now was listed before
or has got a handle since. -/
structure Follows (g h : Graph) : Prop where
  nextNode_le : g.nextNode ≤ h.nextNode
  nextEdge_le : g.nextEdge ≤ h.nextEdge
  nodes_old_or_fresh : ∀ node ∈ h.nodes, node ∈ g.nodes ∨ g.nextNode ≤ node
  edges_old_or_fresh : ∀ e ∈ h.edges, e ∈ g.edges ∨ g.nextEdge ≤ e.id

theorem Follows.refl (g : Graph) : Follows g g where
  nextNode_le := Int.le_refl _
  nextEdge_le := Int.le_refl _
  nodes_old_or_fresh _ held := .inl held
  edges_old_or_fresh _ held := .inl held

theorem Follows.trans {f g h : Graph} (first : Follows f g) (second : Follows g h) :
    Follows f h where
  nextNode_le := Int.le_trans first.nextNode_le second.nextNode_le
  nextEdge_le := Int.le_trans first.nextEdge_le second.nextEdge_le
  nodes_old_or_fresh node held := by
    rcases second.nodes_old_or_fresh node held with old | fresh
    · exact first.nodes_old_or_fresh node old
    · exact .inr (Int.le_trans first.nextNode_le fresh)
  edges_old_or_fresh e held := by
    rcases second.edges_old_or_fresh e held with old | fresh
    · exact first.edges_old_or_fresh e old
    · exact .inr (Int.le_trans first.nextEdge_le fresh)

theorem WellFormed.nodes_nodup {g : Graph} (wf : g.WellFormed) : g.nodes.Nodup :=
  wf.nodes_increasing.imp fun less => Int.ne_of_lt less

theorem WellFormed.ids_nodup {g : Graph} (wf : g.WellFormed) : (g.edges.map Edge.id).Nodup :=
  List.pairwise_map.mpr (wf.edges_increasing.imp fun less => Int.ne_of_lt less)

/-! ## One change -/

/-- A graph of which nodes and edges may be missing, but no end of an edge, is still well-formed. -/
theorem WellFormed.of_sublists {g : Graph} (wf : g.WellFormed) {nodes : List NodeId}
    {edges : List Edge} (fewerNodes : nodes.Sublist g.nodes) (fewerEdges : edges.Sublist g.edges)
    (ends : ∀ e ∈ edges, e.source ∈ nodes ∧ e.target ∈ nodes) :
    WellFormed { g with nodes := nodes, edges := edges } where
  nodes_increasing := wf.nodes_increasing.sublist fewerNodes
  nodes_below node held := wf.nodes_below node (fewerNodes.subset held)
  edges_increasing := wf.edges_increasing.sublist fewerEdges
  edges_below e held := wf.edges_below e (fewerEdges.subset held)
  ends_mem := ends
  counters_nonneg := wf.counters_nonneg

theorem WellFormed.withNode {g : Graph} (wf : g.WellFormed) : g.withNode.WellFormed where
  nodes_increasing := by
    refine List.pairwise_append.mpr ⟨wf.nodes_increasing, List.pairwise_singleton _ _, ?_⟩
    intro node held fresh new
    obtain rfl := List.mem_singleton.mp new
    exact (wf.nodes_below node held).2
  nodes_below node held := by
    have nonneg := wf.counters_nonneg.1
    rcases List.mem_append.mp held with old | new
    · have below := wf.nodes_below node old
      simp only [Graph.withNode]
      lia
    · obtain rfl := List.mem_singleton.mp new
      simp only [Graph.withNode]
      lia
  edges_increasing := wf.edges_increasing
  edges_below := wf.edges_below
  ends_mem e held :=
    ⟨List.mem_append_left _ (wf.ends_mem e held).1, List.mem_append_left _ (wf.ends_mem e held).2⟩
  counters_nonneg := by
    have nonneg := wf.counters_nonneg
    simp only [Graph.withNode]
    lia

theorem WellFormed.withEdge {g : Graph} (wf : g.WellFormed) {source target : NodeId}
    (held : source ∈ g.nodes) (reached : target ∈ g.nodes) :
    (g.withEdge source target).WellFormed where
  nodes_increasing := wf.nodes_increasing
  nodes_below := wf.nodes_below
  edges_increasing := by
    refine List.pairwise_append.mpr ⟨wf.edges_increasing, List.pairwise_singleton _ _, ?_⟩
    intro e old f new
    obtain rfl := List.mem_singleton.mp new
    exact (wf.edges_below e old).2
  edges_below e member := by
    have nonneg := wf.counters_nonneg.2
    rcases List.mem_append.mp member with old | new
    · have below := wf.edges_below e old
      simp only [Graph.withEdge]
      lia
    · obtain rfl := List.mem_singleton.mp new
      simp only [Graph.withEdge]
      lia
  ends_mem e member := by
    rcases List.mem_append.mp member with old | new
    · exact wf.ends_mem e old
    · obtain rfl := List.mem_singleton.mp new
      exact ⟨held, reached⟩
  counters_nonneg := by
    have nonneg := wf.counters_nonneg
    simp only [Graph.withEdge]
    lia

theorem WellFormed.withoutNode {g : Graph} (wf : g.WellFormed) (node : NodeId) :
    (g.withoutNode node).WellFormed := by
  refine wf.of_sublists List.filter_sublist List.filter_sublist ?_
  intro e member
  obtain ⟨old, apart⟩ := List.mem_filter.mp member
  have ends := wf.ends_mem e old
  simp only [Edge.touches, Bool.not_eq_true', Bool.or_eq_false_iff,
    decide_eq_false_iff_not] at apart
  exact ⟨List.mem_filter.mpr ⟨ends.1, by simpa using apart.1⟩,
    List.mem_filter.mpr ⟨ends.2, by simpa using apart.2⟩⟩

/-- One change keeps a graph well-formed. -/
theorem Change.wellFormed {g h : Graph} (change : Change g h) (wf : g.WellFormed) :
    h.WellFormed := by
  cases change with
  | node => exact wf.withNode
  | edge held reached => exact wf.withEdge held reached
  | loseEdge edge =>
    exact wf.of_sublists (.refl _) List.filter_sublist
      fun e member => wf.ends_mem e ((List.mem_filter.mp member).1)
  | loseNode node => exact wf.withoutNode node
  | clear => exact wf.of_sublists (List.nil_sublist _) (List.nil_sublist _) (by simp)

/-- One change lets no counter fall and no handle return. -/
theorem Change.follows {g h : Graph} (change : Change g h) : Follows g h := by
  cases change with
  | node =>
    refine { Follows.refl g with nextNode_le := ?_, nodes_old_or_fresh := ?_ }
    · simp only [Graph.withNode]
      lia
    · intro node held
      rcases List.mem_append.mp held with old | new
      · exact .inl old
      · exact .inr (Int.le_of_eq (List.mem_singleton.mp new).symm)
  | edge held reached =>
    refine { Follows.refl g with nextEdge_le := ?_, edges_old_or_fresh := ?_ }
    · simp only [Graph.withEdge]
      lia
    · intro e member
      rcases List.mem_append.mp member with old | new
      · exact .inl old
      · obtain rfl := List.mem_singleton.mp new
        exact .inr (Int.le_refl _)
  | loseEdge edge =>
    exact { Follows.refl g with
      edges_old_or_fresh := fun e member => .inl ((List.mem_filter.mp member).1) }
  | loseNode node =>
    exact { Follows.refl g with
      nodes_old_or_fresh := fun n member => .inl ((List.mem_filter.mp member).1)
      edges_old_or_fresh := fun e member => .inl ((List.mem_filter.mp member).1) }
  | clear =>
    exact { Follows.refl g with
      nodes_old_or_fresh := fun n member => absurd member List.not_mem_nil
      edges_old_or_fresh := fun e member => absurd member List.not_mem_nil }

/-! ## Any number of changes -/

/-- Graphs stay well-formed. -/
theorem Becomes.wellFormed {g h : Graph} (becomes : Becomes g h) (wf : g.WellFormed) :
    h.WellFormed := by
  induction becomes with
  | refl => exact wf
  | tail _ change ih => exact change.wellFormed ih

/-- Counters never fall, and only new handles are added. -/
theorem Becomes.follows {g h : Graph} (becomes : Becomes g h) : Follows g h := by
  induction becomes with
  | refl => exact Follows.refl g
  | tail _ change ih => exact ih.trans change.follows

open Multigraph.Action

theorem newNode_changes : Keeps Becomes newNode := fun g => (Change.node g).becomes

theorem newEdge_changes (source target : NodeId) : Keeps Becomes (newEdge source target) := by
  intro g
  by_cases held : source ∈ g.nodes
  · by_cases reached : target ∈ g.nodes
    · rw [after_of_ok (newEdge_run held reached)]
      exact (Change.edge held reached).becomes
    · rw [after_of_error (newEdge_foreign_target held reached)]
      exact refl g
  · rw [after_of_error (newEdge_foreign_source held)]
    exact refl g

theorem deleteEdge_changes (edge : EdgeId) : Keeps Becomes (deleteEdge edge) :=
  keeps_bind (keeps_query _) fun e => keeps_modify fun g => (Change.loseEdge g e.id).becomes

theorem deleteNode_changes (node : NodeId) : Keeps Becomes (deleteNode node) :=
  keeps_bind (keeps_query _) fun _ => keeps_modify fun g => (Change.loseNode g node).becomes

theorem clear_changes : Keeps Becomes clear := keeps_modify fun g => (Change.clear g).becomes

theorem insert_changes (other : Graph) : Keeps Becomes (insert other) := by
  have copyNode_changes : ∀ node, Keeps Becomes (copyNode node) := fun node =>
    keeps_bind newNode_changes fun _ => keeps_pure _
  have copyEdge_changes : ∀ image e, Keeps Becomes (copyEdge image e) := fun image e =>
    keeps_bind (keeps_ofExcept _) fun source => keeps_bind (keeps_ofExcept _) fun target =>
      keeps_bind (newEdge_changes source target) fun _ => keeps_pure _
  exact keeps_bind (keeps_mapM fun node _ => copyNode_changes node) fun _ =>
    keeps_bind (keeps_mapM fun e _ => copyEdge_changes _ e) fun _ => keeps_pure _

theorem removeParallel_changes (directed : Bool) : Keeps Becomes (removeParallel directed) :=
  keeps_bind keeps_get fun _ =>
    keeps_bind (keeps_forM fun e _ => deleteEdge_changes e.id) fun _ => keeps_pure _

end Multigraph.Graph
