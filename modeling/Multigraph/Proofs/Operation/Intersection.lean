import Multigraph.Proofs.Correspondence
import Multigraph.Proofs.Graph.Deleting
import Multigraph.Proofs.Graph.Drawing
import Multigraph.Proofs.Workspace.Merge

/-!
What the intersection leaves of a graph. The nodes without a correspondent go first; then the
remaining nodes are visited, and an edge that is not common goes at the first of its ends that is
visited. So after some visits the graph is `trimmed common g visited`: every edge that is left is
common or has not been seen yet (`trimNode_next`). In the end all edges have been seen, and exactly
the common ones are left (`intersection_run`). What is left intersects in itself, so a second run
finds nothing to do (`intersection_exact`).
-/
namespace Multigraph

open Multigraph.Action

namespace Edge

/-- The end of an edge that is not the given one; of a loop, its node. -/
def far (e : Edge) (node : NodeId) : NodeId := if node = e.source then e.target else e.source

/-- Whether an end of the edge is among some nodes. -/
def meets (e : Edge) (nodes : List NodeId) : Bool := e.source ∈ nodes || e.target ∈ nodes

theorem meets_append (e : Edge) (nodes : List NodeId) (node : NodeId) :
    e.meets (nodes ++ [node]) = (e.meets nodes || e.touches node) := by
  simp only [meets, touches, List.mem_append, List.mem_singleton, Bool.decide_or]
  cases decide (e.source ∈ nodes) <;> cases decide (e.source = node) <;>
    cases decide (e.target ∈ nodes) <;> rfl

end Edge

namespace Graph

/-- Whether a correspondence takes the ends of an edge to adjacent nodes of the second graph. -/
def common (second : Graph) (values : Assignment) (e : Edge) : Bool :=
  match values.target? e.source, values.target? e.target with
  | some u, some v => second.adjacent u v
  | _, _ => false

theorem common_iff {second : Graph} {values : Assignment} {e : Edge} :
    common second values e = true ↔ ∃ u v, values.target? e.source = some u ∧
      values.target? e.target = some v ∧ second.adjacent u v = true := by
  unfold common
  cases values.target? e.source with
  | none => simp
  | some u =>
    cases values.target? e.target with
    | none => simp
    | some v => simp

/-! ## Examining the edges at a node -/

variable {g h second : Graph} {images : Table NodeId NodeId} {beside : List NodeId}
  {node : NodeId}

theorem opposite_run {e : Edge} (distinct : (h.edges.map Edge.id).Nodup) (member : e ∈ h.edges)
    (touching : e.touches node = true) : h.opposite e.id node = .ok (e.far node) := by
  rw [opposite, edge_of_mem distinct member, Edge.far]
  simp only [Edge.touches, Bool.or_eq_true, decide_eq_true_eq] at touching
  by_cases atSource : node = e.source
  · rw [if_pos atSource]
    exact if_pos atSource
  · have atTarget : node = e.target := by
      rcases touching with source | target
      · exact absurd source.symm atSource
      · exact target.symm
    rw [if_neg atSource]
    exact (if_neg atSource).trans (if_pos atTarget)

/-- An edge at the visited node goes unless its other end corresponds to a node beside. -/
theorem trimEdge_run (beside : List NodeId) (dropped : Nat) {e : Edge} {image : NodeId}
    (distinct : (h.edges.map Edge.id).Nodup) (member : e ∈ h.edges)
    (touching : e.touches node = true) (fetched : images.fetch (e.far node) = .ok image) :
    trimEdge images node beside dropped e h =
      if image ∈ beside then .ok dropped h else .ok (dropped + 1) (h.withoutEdge e.id) := by
  have asked : query (Graph.opposite · e.id node) h = .ok (e.far node) h :=
    query_of_ok (opposite_run distinct member touching)
  refine (bind_of_ok asked).trans ((bind_of_ok (ofExcept_of_ok fetched h)).trans ?_)
  by_cases near : image ∈ beside
  · rw [if_pos near, if_pos near]
    rfl
  · rw [if_neg near, if_neg near]
    exact bind_of_ok (deleteEdge_of_mem member)

/-- Of the edges at the visited node those stay whose other ends correspond to nodes beside. -/
theorem trimEdges_run (dropped : Nat) {es : List Edge} {stays : Edge → Bool}
    (held : ∀ e ∈ es, e ∈ h.edges) (distinct : (h.edges.map Edge.id).Nodup)
    (unique : (es.map Edge.id).Nodup) (touching : ∀ e ∈ es, e.touches node = true)
    (decided : ∀ e ∈ es, ∃ image, images.fetch (e.far node) = .ok image ∧
      (image ∈ beside ↔ stays e = true)) :
    es.foldlM (trimEdge images node beside) dropped h =
      .ok (dropped + (es.filter fun e => !stays e).length)
        (h.withoutEdges ((es.filter fun e => !stays e).map Edge.id)) := by
  induction es generalizing h dropped with
  | nil => exact congrArg (EStateM.Result.ok dropped) (withoutEdges_nil h).symm
  | cons e rest ih =>
    obtain ⟨member, heldRest⟩ := List.forall_mem_cons.mp held
    obtain ⟨touchingHere, touchingRest⟩ := List.forall_mem_cons.mp touching
    obtain ⟨⟨image, fetched, near⟩, decidedRest⟩ := List.forall_mem_cons.mp decided
    have uniqueRest := (List.nodup_cons.mp unique).2
    have here := trimEdge_run beside dropped distinct member touchingHere fetched
    cases kept : stays e with
    | true =>
      rw [if_pos (near.mpr kept)] at here
      rw [foldlM_cons_of_ok here, List.filter_cons_of_neg (by simp [kept])]
      exact ih dropped heldRest distinct uniqueRest touchingRest decidedRest
    | false =>
      have away : image ∉ beside := fun listed => by simp [near.mp listed] at kept
      have fewer : ((h.withoutEdge e.id).edges.map Edge.id).Nodup :=
        distinct.sublist (List.filter_sublist.map Edge.id)
      have looped := ih (dropped + 1) (mem_withoutEdge unique held) fewer uniqueRest touchingRest
        decidedRest
      rw [Nat.add_assoc, Nat.add_comm 1] at looped
      rw [if_neg away] at here
      rw [foldlM_cons_of_ok here, List.filter_cons_of_pos (by simp [kept]), List.map_cons,
        withoutEdges_cons]
      exact looped

/-! ## Visiting the nodes -/

/-- The graph when some nodes have been visited: an edge that has been seen is there only if it
stays. -/
def trimmed (stays : Edge → Bool) (g : Graph) (visited : List NodeId) : Graph :=
  { g with edges := g.edges.filter fun e => stays e || !e.meets visited }

/-- How many edges have gone when some nodes have been visited. -/
def trimCount (stays : Edge → Bool) (g : Graph) (visited : List NodeId) : Nat :=
  g.edges.countP fun e => !stays e && e.meets visited

theorem trimmed_nil (stays : Edge → Bool) (g : Graph) : trimmed stays g [] = g := by
  simp [trimmed, Edge.meets]

theorem trimCount_nil (stays : Edge → Bool) (g : Graph) : trimCount stays g [] = 0 := by
  simp [trimCount, Edge.meets]

/-- One more visit removes the edges at the node that do not stay. -/
theorem trimmed_append (stays : Edge → Bool) (g : Graph) (visited : List NodeId) (node : NodeId) :
    { trimmed stays g visited with
        edges := (trimmed stays g visited).edges.filter fun e => !(e.touches node && !stays e) } =
      trimmed stays g (visited ++ [node]) := by
  simp only [trimmed, List.filter_filter, Edge.meets_append]
  congr 1
  refine List.filter_congr fun e _ => ?_
  cases stays e <;> cases e.meets visited <;> cases e.touches node <;> rfl

/-- The edges that go with one more visit are those at the node that had not been seen. -/
theorem trimCount_append (stays : Edge → Bool) (g : Graph) (visited : List NodeId)
    (node : NodeId) :
    trimCount stays g visited + ((trimmed stays g visited).edges.filter
        fun e => e.touches node && !stays e).length = trimCount stays g (visited ++ [node]) := by
  simp only [trimCount, trimmed, Edge.meets_append]
  rw [List.countP_eq_countP_filter_add g.edges
    (fun e => !stays e && (e.meets visited || e.touches node)) fun e => e.meets visited]
  simp only [List.countP_filter, List.filter_filter, ← List.countP_eq_length_filter]
  congr 1
  · refine List.countP_congr fun e _ => ?_
    cases stays e <;> cases e.meets visited <;> simp
  · refine List.countP_congr fun e _ => ?_
    cases stays e <;> cases e.meets visited <;> cases e.touches node <;> simp

variable {stays : Edge → Bool} {visited : List NodeId}

/-- Visiting a node: the edges at it that do not stay go. -/
theorem trimNode_next {image : NodeId} (distinct : (g.edges.map Edge.id).Nodup)
    (held : node ∈ g.nodes) (fetched : images.fetch node = .ok image)
    (known : image ∈ second.nodes)
    (decided : ∀ e ∈ g.edges, e.touches node = true → ∃ other,
      images.fetch (e.far node) = .ok other ∧
        (other ∈ second.neighbours image ↔ stays e = true)) :
    trimNode (.other second) images (trimCount stays g visited) node (trimmed stays g visited) =
      .ok (trimCount stays g (visited ++ [node])) (trimmed stays g (visited ++ [node])) := by
  have unique : ((trimmed stays g visited).edges.map Edge.id).Nodup :=
    distinct.sublist (List.filter_sublist.map Edge.id)
  have incident : ∀ e ∈ (trimmed stays g visited).incidentEdges node,
      e ∈ (trimmed stays g visited).edges ∧ e.touches node = true := fun e member =>
    List.mem_filter.mp member
  have looped := trimEdges_run (trimCount stays g visited) (fun e member => (incident e member).1)
    unique (unique.sublist (List.filter_sublist.map Edge.id)) (fun e member => (incident e member).2)
    fun e member => decided e (List.mem_filter.mp (incident e member).1).1 (incident e member).2
  have gone : ((trimmed stays g visited).incidentEdges node).filter (fun e => !stays e) =
      (trimmed stays g visited).edges.filter fun e => e.touches node && !stays e := by
    rw [incidentEdges, List.filter_filter]
    exact List.filter_congr fun e _ => Bool.and_comm _ _
  rw [gone, trimCount_append, withoutEdges_filter unique, trimmed_append] at looped
  refine (bind_of_ok (ofExcept_of_ok fetched _)).trans ?_
  refine (bind_of_ok (Operand.read_other second _)).trans ?_
  refine (bind_of_ok (ofExcept_of_ok (atNode_of_mem neighbours known) _)).trans ?_
  refine .trans ?_ looped
  exact bind_of_ok (query_atNode_run (g := trimmed stays g visited) incidentEdges held)

/-! ## The edges that are left -/

variable {values : Assignment}

theorem mem_neighbours {u v : NodeId} :
    v ∈ g.neighbours u ↔ v ∈ g.nodes ∧ g.adjacent u v = true := List.mem_filter

/-- An edge is judged alike from either end. -/
theorem common_of_far {e : Edge} {u v : NodeId} (touching : e.touches node = true)
    (near : values.target? node = some u) (other : values.target? (e.far node) = some v) :
    common second values e = second.adjacent u v := by
  rw [Edge.far] at other
  simp only [Edge.touches, Bool.or_eq_true, decide_eq_true_eq] at touching
  by_cases atSource : node = e.source
  · rw [if_pos atSource] at other
    rw [atSource] at near
    simp only [common, near, other]
  · have atTarget : e.target = node := touching.resolve_left (Ne.symm atSource)
    rw [if_neg atSource] at other
    rw [← atTarget] at near
    simp only [common, near, other]
    exact adjacent_comm second v u

/-- When every node corresponds to a node of the second graph, visiting all of them removes the
edges that are not common. -/
theorem trimNodes_run (images : Table NodeId NodeId) (wf : g.WellFormed)
    (corresponds : ∀ node ∈ g.nodes, ∃ image ∈ second.nodes,
      values.target? node = some image ∧ images.fetch node = .ok image) :
    g.nodes.foldlM (trimNode (.other second) images) 0 g =
      .ok (g.edges.countP fun e => !common second values e)
        { g with edges := g.edges.filter (common second values) } := by
  have next : ∀ visited node rest, g.nodes = visited ++ node :: rest →
      trimNode (.other second) images (trimCount (common second values) g visited) node
          (trimmed (common second values) g visited) =
        .ok (trimCount (common second values) g (visited ++ [node]))
          (trimmed (common second values) g (visited ++ [node])) := by
    intro visited node rest cut
    have held : node ∈ g.nodes := cut ▸ List.mem_append_cons_self
    obtain ⟨image, known, found, fetched⟩ := corresponds node held
    refine trimNode_next wf.ids_nodup held fetched known fun e member touching => ?_
    have inside : e.far node ∈ g.nodes := by
      obtain ⟨source, target⟩ := wf.ends_mem e member
      rw [Edge.far]
      split
      · exact target
      · exact source
    obtain ⟨other, there, foundFar, fetchedFar⟩ := corresponds (e.far node) inside
    refine ⟨other, fetchedFar, ?_⟩
    rw [mem_neighbours, common_of_far touching found foundFar]
    exact and_iff_right there
  obtain ⟨count, final, looped, rfl, rfl⟩ := foldlM_invariant
    (fun visited count state => count = trimCount (common second values) g visited ∧
      state = trimmed (common second values) g visited)
    ⟨(trimCount_nil _ _).symm, (trimmed_nil _ _).symm⟩ (by
      rintro visited node rest count state cut ⟨rfl, rfl⟩
      exact ⟨_, _, next visited node rest cut, rfl, rfl⟩)
  -- Every edge has an end among the nodes, so it has been seen.
  have seen : ∀ e ∈ g.edges, e.meets g.nodes = true := fun e member => by
    simp [Edge.meets, (wf.ends_mem e member).1]
  have counted : trimCount (common second values) g g.nodes =
      g.edges.countP fun e => !common second values e :=
    List.countP_congr fun e member => by simp [seen e member]
  have left : trimmed (common second values) g g.nodes =
      { g with edges := g.edges.filter (common second values) } := by
    rw [trimmed]
    congr 1
    exact List.filter_congr fun e member => by simp [seen e member]
  rw [looped, counted, left]

/-! ## The intersection -/

/-- The nodes with a correspondent and the common edges. -/
def intersected (second : Graph) (values : Assignment) (g : Graph) : Graph :=
  { g with
    nodes := g.nodes.filter fun node => (values.get? node).isSome
    edges := g.edges.filter (common second values) }

variable {first : Graph}

/-- Common edges do not end at a node without a correspondent. -/
theorem not_unset_of_common {e : Edge} (between : common second values e = true) :
    e.source ∉ values.unsetNodes first ∧ e.target ∉ values.unsetNodes first := by
  obtain ⟨u, v, source, target, _⟩ := common_iff.mp between
  constructor
  · intro unset
    simp [Assignment.target?_of_unset unset] at source
  · intro unset
    simp [Assignment.target?_of_unset unset] at target

/-- The nodes without a correspondent go with their edges, and then the edges that are not
common. -/
theorem intersected_eq (second first : Graph) (values : Assignment) :
    { first.withoutNodes (values.unsetNodes first) with
        edges := (first.withoutNodes (values.unsetNodes first)).edges.filter
          (common second values) } =
      intersected second values first := by
  simp only [withoutNodes, intersected, List.filter_filter]
  congr 1
  · refine List.filter_congr fun node held => ?_
    cases read : values.get? node with
    | none => simp [Assignment.unsetNodes, held, read]
    | some value => simp [Assignment.unsetNodes, read]
  · refine List.filter_congr fun e member => ?_
    cases between : common second values e with
    | false => rfl
    | true => simp [not_unset_of_common between]

/-- The intersection keeps the nodes with a correspondent and the common edges, and reports how many
nodes and how many of the edges between the others went. -/
theorem intersection_run (wf : first.WellFormed) (valid : values.PointsInto first second) :
    intersection (.other second) values first =
      .ok (.intersection (values.unsetNodes first).length
          ((first.withoutNodes (values.unsetNodes first)).edges.countP
            fun e => !common second values e)
          (intersected second values first).nodes.length
          (intersected second values first).edges.length)
        (intersected second values first) := by
  have lost : ∀ node ∈ values.unsetNodes first, node ∈ first.nodes := fun node member =>
    (List.mem_filter.mp member).1
  have deleted := deleteNodes_run lost (wf.nodes_nodup.filter _)
  have remains : (first.withoutNodes (values.unsetNodes first)).WellFormed :=
    ((keeps_forM fun node _ => deleteNode_changes node).reached deleted).wellFormed wf
  have trimmed := trimNodes_run ⟨values.identifications first.nodes⟩ remains
    fun node left => by
      obtain ⟨held, set⟩ := List.mem_filter.mp left
      obtain ⟨image, known, found⟩ := valid.target_of_set held (by simpa using set)
      refine ⟨image, known, found, ?_⟩
      rw [Table.fetch, Table.get?, Assignment.lookup_identifications, if_pos held, found]
  rw [intersected_eq] at trimmed
  rw [intersection, get_bind_run]
  have resolved := Assignment.resolve_run valid wf.nodes_nodup
  refine (bind_of_ok (ofExcept_of_ok (resolved _) first)).trans ?_
  refine (bind_of_ok deleted).trans ((get_bind_run _ _).trans ((bind_of_ok trimmed).trans ?_))
  exact get_bind_run _ _

theorem intersected_wellFormed (wf : first.WellFormed) (valid : values.PointsInto first second) :
    (intersected second values first).WellFormed :=
  ((intersection_changes _ _).reached (intersection_run wf valid)).wellFormed wf

/-- What the intersection leaves is left by the intersection again, and nothing goes. -/
theorem intersection_again (wf : first.WellFormed) (valid : values.PointsInto first second) :
    intersection (.other second) values (intersected second values first) =
      .ok (.intersection 0 0 (intersected second values first).nodes.length
          (intersected second values first).edges.length)
        (intersected second values first) := by
  have still : values.PointsInto (intersected second values first) second :=
    fun node left => valid node (List.mem_filter.mp left).1
  have complete : values.unsetNodes (intersected second values first) = [] := by
    refine List.filter_eq_nil_iff.mpr fun node left => ?_
    have set := (List.mem_filter.mp left).2
    simp [Option.isNone_iff_eq_none, Option.isSome_iff_ne_none.mp set]
  have settled : intersected second values (intersected second values first) =
      intersected second values first := by
    simp only [intersected, List.filter_filter, Bool.and_self]
  have none_gone : (intersected second values first).edges.countP
      (fun e => !common second values e) = 0 :=
    List.countP_eq_zero.mpr fun e left => by simp [(List.mem_filter.mp left).2]
  have ran := intersection_run (intersected_wellFormed wf valid) still
  rw [complete, settled, withoutNodes_nil, none_gone] at ran
  exact ran

/-- What it is for a graph to be the intersection of another with a second one under a
correspondence. -/
structure Intersects (second : Graph) (values : Assignment) (before after : Graph) : Prop where
  nodes_eq : after.nodes = before.nodes.filter fun node => (values.get? node).isSome
  /-- Edges keep their handles, directions and order. -/
  edges_eq : after.edges = before.edges.filter (common second values)
  survives : ∀ e ∈ before.edges, e ∈ after.edges ↔ ∃ u v, values.target? e.source = some u ∧
    values.target? e.target = some v ∧ second.adjacent u v = true
  /-- A loop, or an edge whose ends have one correspondent, needs a loop there. -/
  folded_survives : ∀ e ∈ before.edges, ∀ u, values.target? e.source = some u →
    values.target? e.target = some u → (e ∈ after.edges ↔ ∃ f ∈ second.edges, f.runs u u = true)

theorem intersected_intersects (second : Graph) (values : Assignment) (first : Graph) :
    Intersects second values first (intersected second values first) := by
  have left : ∀ e ∈ first.edges, e ∈ (intersected second values first).edges ↔
      common second values e = true := fun e member => by
    rw [intersected, List.mem_filter]
    exact and_iff_right member
  refine ⟨rfl, rfl, fun e member => (left e member).trans common_iff, ?_⟩
  intro e member u source target
  rw [left e member]
  simp only [common, source, target, adjacent, Edge.joins, Bool.or_self, List.any_eq_true]

end Graph

namespace Workspace

variable {w : Workspace} {first second : GraphId} {m : MapId}

/-- In every workspace that commands lead to, the intersection of two graphs under a correspondence
whose values are nodes of the second succeeds. It leaves the nodes that have a value and the edges
between nodes whose values are adjacent, and nothing else changes; a second intersection changes and
drops nothing. -/
theorem intersection_exact (reached : w.Reachable) (apart : first ≠ second)
    (held : first < w.graphs.length) (bound : w.isBoundTo m first = true)
    (valid : (w.map m).values.PointsInto (w.graph first) (w.graph second)) :
    ∃ event after,
      run (.intersection first second m) w = .ok { answer := .done, event := some event } after ∧
      Graph.Intersects (w.graph second) (w.map m).values (w.graph first) (after.graph first) ∧
      (∀ node ∈ (after.graph first).nodes, after.readKey m node = w.readKey m node) ∧
      after.graph second = w.graph second ∧
      run (.intersection first second m) after = .ok
        { answer := .done
          event := some (.intersection 0 0 (after.graph first).nodes.length
            (after.graph first).edges.length) } after := by
  have wf := reached.wellFormed first
  obtain ⟨g, made⟩ : ∃ g, g = Graph.intersected (w.graph second) (w.map m).values (w.graph first) :=
    ⟨_, rfl⟩
  have ran := Graph.intersection_run wf valid
  have again := Graph.intersection_again wf valid
  rw [← made] at ran again
  have first_after : (w.setGraph first g).graph first = g :=
    (graph_setGraph w first first g).trans (if_pos ⟨rfl, held⟩)
  have second_after : (w.setGraph first g).graph second = w.graph second :=
    (graph_setGraph w first second g).trans (if_neg fun same => apart same.1)
  refine ⟨_, w.setGraph first g, intersection_command apart bound ran, ?_, ?_, second_after, ?_⟩
  · rw [first_after, made]
    exact Graph.intersected_intersects _ _ _
  · intro node left
    have old : node ∈ (w.graph first).nodes := by
      rw [first_after, made] at left
      exact (List.mem_filter.mp left).1
    rw [readKey_run (g := first) (w := w.setGraph first g) bound left, readKey_run bound old]
    rfl
  · have twice := setGraph_setGraph w first g g
    rw [← first_after, ← second_after] at again
    have onward := intersection_command (w := w.setGraph first g) apart bound again
    rw [first_after, twice] at onward
    rw [first_after]
    exact onward

/-- A path with a loop, a pair of parallel edges and a node that corresponds to nothing, and a
second graph with one edge and one loop, to which two of its nodes correspond. -/
def overlap : List Command :=
  [.newGraph, .newNode 0, .newNode 0, .newNode 0, .newNode 0, .newEdge 0 0 1, .newEdge 0 1 0,
    .newEdge 0 1 1, .newEdge 0 1 2, .newEdge 0 2 3, .newEdge 0 3 3, .newGraph, .newNode 1,
    .newNode 1, .newEdge 1 0 1, .newEdge 1 0 0, .newMap (some 0), .write 0 0 (some (.int 0)),
    .write 0 1 (some (.int 0)), .write 0 2 (some (.int 1))]

theorem intersection_exact_overlap :
    Reachable (runAll {} overlap) ∧ 0 ≠ 1 ∧ 0 < (runAll {} overlap).graphs.length ∧
    (runAll {} overlap).isBoundTo 0 0 = true ∧
    ((runAll {} overlap).map 0).values.PointsInto ((runAll {} overlap).graph 0)
      ((runAll {} overlap).graph 1) ∧
    ∃ event after,
      run (.intersection 0 1 0) (runAll {} overlap) =
        .ok { answer := .done, event := some event } after ∧
      (after.graph 0).nodes = [0, 1, 2] ∧ (after.graph 0).edges.map Edge.id = [0, 1, 2, 3] ∧
      after.graph 1 = (runAll {} overlap).graph 1 ∧
      run (.intersection 0 1 0) after =
        .ok { answer := .done, event := some (.intersection 0 0 3 4) } after := by
  have reached : Reachable (runAll {} overlap) :=
    reachable_runAll .empty (by simp [overlap, Command.Proper])
  have apart : 0 ≠ 1 := by decide
  have held : 0 < (runAll {} overlap).graphs.length := by decide +kernel
  have bound : (runAll {} overlap).isBoundTo 0 0 = true := by decide +kernel
  have valid : ((runAll {} overlap).map 0).values.PointsInto ((runAll {} overlap).graph 0)
      ((runAll {} overlap).graph 1) := by decide +kernel
  obtain ⟨event, after, ran, intersects, _, second_after, again⟩ :=
    intersection_exact reached apart held bound valid
  have nodes : (after.graph 0).nodes = [0, 1, 2] := intersects.nodes_eq.trans (by decide +kernel)
  have edges : (after.graph 0).edges.map Edge.id = [0, 1, 2, 3] := by
    rw [intersects.edges_eq]
    decide +kernel
  have count : (after.graph 0).edges.length = 4 := by
    rw [← List.length_map Edge.id, edges]
    rfl
  rw [nodes, count] at again
  exact ⟨reached, apart, held, bound, valid, event, after, ran, nodes, edges, second_after, again⟩

end Workspace

end Multigraph
