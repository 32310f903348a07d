import Multigraph.Proofs.Correspondence
import Multigraph.Proofs.Graph.Insert
import Multigraph.Proofs.Graph.Parallel
import Multigraph.Proofs.Workspace.Reachable

/-!
What the join of two graphs is. The second graph is copied first; then its nodes are settled one
by one, and `Settled` says what holds in between: the nodes settled so far are where they are
identified, the others are still at their copies, and the edges of the second graph run between
these places, in some order. That carries the loop to its end, where every node is at its place
(`settle_all`). The edges between the graphs and the removal of parallel edges are then told pair
by pair (`join_joins`).
-/
namespace Multigraph

open Multigraph.Action

namespace Graph

/-! ## Absorbing a node -/

variable {g : Graph} {old new : NodeId}

/-- The graph after one node has absorbed another. -/
def absorbed (g : Graph) (old new : NodeId) : Graph :=
  (g.withEdges ((g.incidentEdges old).map (Edge.endsUnder (redirect old new)))).withoutNode old

theorem redirect_mem {nodes : List NodeId} {node : NodeId} (held : node ∈ nodes)
    (target : new ∈ nodes) : redirect old new node ∈ nodes := by
  unfold redirect
  split
  · exact target
  · exact held

theorem redirect_ne (apart : new ≠ old) (node : NodeId) : redirect old new node ≠ old := by
  unfold redirect
  split
  · exact apart
  · assumption

/-- Absorbing a node draws its edges again and deletes it. -/
theorem absorb_run (wf : g.WellFormed) (held : old ∈ g.nodes) (target : new ∈ g.nodes) :
    absorb old new g = .ok () (g.absorbed old new) := by
  have redrawn : Draws g.nodes ((g.incidentEdges old).forM (redrawEdge old new)) ()
      ((g.incidentEdges old).flatMap fun e => [Edge.endsUnder (redirect old new) e]) := by
    refine draws_forM fun e member => ?_
    obtain ⟨source, reached⟩ := wf.ends_mem e ((List.mem_filter.mp member).1)
    exact draws_newEdge (redirect_mem source target) (redirect_mem reached target)
  rw [← List.map_eq_flatMap] at redrawn
  refine (bind_of_ok (query_atNode_run incidentEdges held)).trans ?_
  refine (bind_of_ok (redrawn g rfl)).trans ?_
  exact deleteNode_run held

theorem absorbed_wellFormed (wf : g.WellFormed) (held : old ∈ g.nodes) (target : new ∈ g.nodes) :
    (g.absorbed old new).WellFormed :=
  ((absorb_changes old new).reached (absorb_run wf held target)).wellFormed wf

theorem endsUnder_redirect {e : Edge} (away : e.touches old = false) :
    e.endsUnder (redirect old new) = e.ends := by
  simp only [Edge.touches, Bool.or_eq_false_iff, decide_eq_false_iff_not] at away
  rw [Edge.endsUnder, redirect, redirect, if_neg away.1, if_neg away.2, Edge.ends]

/-- What is drawn again is away from the absorbed node. -/
theorem redrawn_away (apart : new ≠ old) {counter : EdgeId} {edges : List Edge} {e : Edge}
    (member : e ∈ Edge.numbered counter (edges.map (Edge.endsUnder (redirect old new)))) :
    e.touches old = false := by
  obtain ⟨f, _, same⟩ := List.mem_map.mp (Edge.ends_mem_of_mem_numbered member)
  obtain ⟨source, target⟩ := Prod.mk.inj same
  simp [Edge.touches, ← source, ← target, redirect_ne apart]

theorem filter_away {edges : List Edge} (away : ∀ e ∈ edges, e.touches old = false) :
    (edges.filter fun e => !e.touches old) = edges :=
  List.filter_eq_self.mpr fun e member => by rw [away e member, Bool.not_false]

/-- Edges that stay away from the absorbed node are kept, and the others end at redirected ends. Those
that are drawn again go to the end, in their order. -/
theorem absorbed_edges {kept drawn : List Edge} (split : g.edges = kept ++ drawn)
    (away : ∀ e ∈ kept, e.touches old = false) (apart : new ≠ old) :
    ∃ later, (g.absorbed old new).edges = kept ++ later ∧
      later.map Edge.ends =
        ((drawn.filter fun e => !e.touches old) ++ drawn.filter fun e => e.touches old).map
          (Edge.endsUnder (redirect old new)) := by
  have incident : g.incidentEdges old = drawn.filter fun e => e.touches old := by
    rw [incidentEdges, split, List.filter_append, List.filter_eq_nil_iff.mpr, List.nil_append]
    intro e member
    simp [away e member]
  refine ⟨(drawn.filter fun e => !e.touches old) ++ Edge.numbered g.nextEdge
    ((g.incidentEdges old).map (Edge.endsUnder (redirect old new))), ?_, ?_⟩
  · simp only [absorbed, withoutNode, edges_withEdges, split, List.filter_append,
      filter_away away, filter_away fun e => redrawn_away apart, List.append_assoc]
  · have unmoved : (drawn.filter fun e => !e.touches old).map Edge.ends =
        (drawn.filter fun e => !e.touches old).map (Edge.endsUnder (redirect old new)) := by
      refine List.map_congr_left fun e member => ?_
      have stays := (List.mem_filter.mp member).2
      exact (endsUnder_redirect (by simpa using stays)).symm
    rw [List.map_append, Edge.map_ends_numbered, unmoved, incident, ← List.map_append]

/-! ## Settling the nodes of the second graph -/

/-- Where a node of the second graph is when some of its nodes have been settled: at its place if
it is one of them, and at its copy otherwise. -/
def placeAfter (values : Assignment) (first : NodeId) (nodes done : List NodeId) (node : NodeId) :
    NodeId :=
  if node ∈ done then values.placeFrom first nodes node else handleOf first nodes node

/-- The nodes of the second graph whose copies are still there when some have been settled. -/
def standing (values : Assignment) (nodes done : List NodeId) : List NodeId :=
  nodes.filter fun node => !(node ∈ done && (values.target? node).isSome)

/-- The graph in the midst of a join, when some nodes of the second graph have been settled. -/
structure Settled (first second : Graph) (values : Assignment) (done : List NodeId)
    (images : Table NodeId NodeId) (g : Graph) : Prop where
  wellFormed : g.WellFormed
  /-- The copies of the identified nodes go as they are settled. -/
  nodes_eq : g.nodes = first.nodes ++
    (standing values second.nodes done).map (handleOf first.nextNode second.nodes)
  keys_eq : images.keys = second.nodes
  images_eq : ∀ node ∈ second.nodes,
    images.get? node = some (placeAfter values first.nextNode second.nodes done node)
  /-- The edges of the first graph are untouched, and those of the second run between the places
  that their ends have now. -/
  edges_split : ∃ drawn, g.edges = first.edges ++ drawn ∧ (drawn.map Edge.ends).Perm
    (second.edges.map (Edge.endsUnder (placeAfter values first.nextNode second.nodes done)))

variable {first second : Graph} {values : Assignment} {done rest : List NodeId}
  {images : Table NodeId NodeId} {n t : NodeId}

theorem placeFrom_unset {counter : NodeId} {nodes : List NodeId}
    (unset : values.target? n = none) :
    values.placeFrom counter nodes n = handleOf counter nodes n := by
  rw [Assignment.placeFrom, unset, Option.getD_none]

theorem placeFrom_set {counter : NodeId} {nodes : List NodeId} (set : values.target? n = some t) :
    values.placeFrom counter nodes n = t := by
  rw [Assignment.placeFrom, set, Option.getD_some]

theorem placeAfter_other {counter : NodeId} {nodes : List NodeId} {node : NodeId}
    (apart : node ≠ n) :
    placeAfter values counter nodes (done ++ [n]) node = placeAfter values counter nodes done node := by
  unfold placeAfter
  simp only [List.mem_append, List.mem_singleton, apart, or_false]

theorem placeAfter_self {counter : NodeId} {nodes : List NodeId} :
    placeAfter values counter nodes (done ++ [n]) n = values.placeFrom counter nodes n :=
  if_pos (List.mem_append_right done List.mem_cons_self)

/-- Settling a node that is not identified moves nothing. -/
theorem placeAfter_unset {counter : NodeId} {nodes : List NodeId}
    (unset : values.target? n = none) (node : NodeId) :
    placeAfter values counter nodes (done ++ [n]) node = placeAfter values counter nodes done node := by
  by_cases same : node = n
  · subst same
    rw [placeAfter_self, placeAfter, placeFrom_unset unset, ite_self]
  · exact placeAfter_other same

/-- Settling an identified node redirects its copy to the node it is identified with, and nothing
else was at that copy. -/
theorem placeAfter_set {counter : NodeId} {nodes : List NodeId} (set : values.target? n = some t)
    (held : n ∈ nodes) (ahead : n ∉ done)
    (old : ∀ node ∈ nodes, ∀ target, values.target? node = some target → target < counter)
    {node : NodeId} (member : node ∈ nodes) :
    placeAfter values counter nodes (done ++ [n]) node =
      redirect (handleOf counter nodes n) t (placeAfter values counter nodes done node) := by
  by_cases same : node = n
  · subst same
    rw [placeAfter_self, placeFrom_set set, placeAfter, if_neg ahead, redirect, if_pos rfl]
  · have elsewhere : placeAfter values counter nodes done node ≠ handleOf counter nodes n := by
      unfold placeAfter
      cases found : values.target? node with
      | none =>
        rw [placeFrom_unset found, ite_self]
        exact fun meet => same (handleOf_inj member meet)
      | some target =>
        rw [placeFrom_set found]
        split
        · have below := old node member target found
          have above := le_handleOf counter nodes n
          lia
        · exact fun meet => same (handleOf_inj member meet)
    rw [placeAfter_other same, redirect, if_neg elsewhere]

theorem standing_unset {nodes : List NodeId} (unset : values.target? n = none) :
    standing values nodes (done ++ [n]) = standing values nodes done := by
  refine List.filter_congr fun node _ => ?_
  by_cases same : node = n
  · subst same
    simp [unset]
  · simp [same]

/-- Settling an identified node takes its copy away and no other. -/
theorem standing_set {counter : NodeId} {nodes : List NodeId} (set : values.target? n = some t) :
    ((standing values nodes done).map (handleOf counter nodes)).filter
        (fun node => node ≠ handleOf counter nodes n) =
      (standing values nodes (done ++ [n])).map (handleOf counter nodes) := by
  rw [List.filter_map, standing, List.filter_filter]
  refine congrArg _ (List.filter_congr fun node member => ?_)
  by_cases same : node = n
  · subst same
    simp [set]
  · have apart : handleOf counter nodes node ≠ handleOf counter nodes n :=
      fun meet => same (handleOf_inj member meet)
    simp [same, apart]

/-- The copied graph, none of whose nodes has been settled. -/
theorem settled_start (wf : first.WellFormed) (other : second.WellFormed) (values : Assignment) :
    Settled first second values []
      ⟨second.nodes.zip (handlesFrom first.nextNode second.nodes.length)⟩
      ((first.withNodes second.nodes.length).withEdges
        (second.edges.map (Edge.endsUnder (handleOf first.nextNode second.nodes)))) where
  wellFormed := ((insert_changes second).reached (insert_run other)).wellFormed wf
  nodes_eq := by
    have all : standing values second.nodes [] = second.nodes :=
      List.filter_eq_self.mpr fun node _ => by simp
    rw [all, map_handleOf _ other.nodes_nodup]
    rfl
  keys_eq := keys_zip_handlesFrom second.nodes first.nextNode
  images_eq node member := by
    rw [Table.get?, lookup_zip_handlesFrom, if_pos member, placeAfter, if_neg List.not_mem_nil]
  edges_split := by
    refine ⟨_, rfl, ?_⟩
    rw [Edge.map_ends_numbered]
    refine List.Perm.of_eq (List.map_congr_left fun e _ => ?_)
    simp [Edge.endsUnder, placeAfter]

/-- The old nodes of the first graph are there throughout. -/
theorem Settled.old_mem {g : Graph} (held : Settled first second values done images g)
    (old : t ∈ first.nodes) : t ∈ g.nodes := by
  rw [held.nodes_eq]
  exact List.mem_append_left _ old

/-- The copy of a node is there until the node is settled. -/
theorem Settled.copy_mem {g : Graph} (held : Settled first second values done images g)
    (member : n ∈ second.nodes) (ahead : n ∉ done) :
    handleOf first.nextNode second.nodes n ∈ g.nodes := by
  have stands : n ∈ standing values second.nodes done :=
    List.mem_filter.mpr ⟨member, by simp [ahead]⟩
  rw [held.nodes_eq]
  exact List.mem_append_right _ (List.mem_map_of_mem stands)

theorem ne_copy (wf : first.WellFormed) (old : t ∈ first.nodes) (nodes : List NodeId) (n : NodeId) :
    t ≠ handleOf first.nextNode nodes n := Int.ne_of_lt (old_lt_copy wf old nodes n)

/-- No edge of the first graph is at a copy. -/
theorem away_from_copy (wf : first.WellFormed) (nodes : List NodeId) (n : NodeId) :
    ∀ e ∈ first.edges, e.touches (handleOf first.nextNode nodes n) = false := by
  intro e old
  obtain ⟨source, reached⟩ := wf.ends_mem e old
  simp [Edge.touches, ne_copy wf source, ne_copy wf reached]

/-- Settling an identified node redirects its copy at both ends of the edges of the second graph. -/
theorem placeAfter_ends (wf : first.WellFormed) (other : second.WellFormed)
    (valid : values.PointsInto second first) (set : values.target? n = some t)
    (member : n ∈ second.nodes) (ahead : n ∉ done) {e : Edge} (listed : e ∈ second.edges) :
    e.endsUnder (placeAfter values first.nextNode second.nodes (done ++ [n])) =
      Prod.map (redirect (handleOf first.nextNode second.nodes n) t)
        (redirect (handleOf first.nextNode second.nodes n) t)
        (e.endsUnder (placeAfter values first.nextNode second.nodes done)) := by
  have old : ∀ node ∈ second.nodes, ∀ target, values.target? node = some target →
      target < first.nextNode := fun _ inside _ found => valid.target_lt wf inside found
  obtain ⟨source, reached⟩ := other.ends_mem e listed
  exact Prod.ext (placeAfter_set set member ahead old source)
    (placeAfter_set set member ahead old reached)

/-- The copy of an identified node has been absorbed. -/
theorem settled_absorbed {g : Graph} (wf : first.WellFormed) (other : second.WellFormed)
    (valid : values.PointsInto second first) (held : Settled first second values done images g)
    (set : values.target? n = some t) (member : n ∈ second.nodes) (ahead : n ∉ done) :
    Settled first second values (done ++ [n]) (images.insert n t)
      (g.absorbed (handleOf first.nextNode second.nodes n) t) := by
  have target := valid.target_mem member set
  -- No edge of the first graph is at the copy, so all that is drawn again are edges of the second.
  refine ⟨?_, ?_, ?_, ?_, ?_⟩
  · exact absorbed_wellFormed held.wellFormed (held.copy_mem member ahead) (held.old_mem target)
  · have kept : (first.nodes.filter fun node =>
        node ≠ handleOf first.nextNode second.nodes n) = first.nodes :=
      List.filter_eq_self.mpr fun node old => by simpa using ne_copy wf old second.nodes n
    rw [absorbed, withoutNode, nodes_withEdges, held.nodes_eq, List.filter_append, kept,
      standing_set set]
  · rw [Table.keys_insert, held.keys_eq, if_pos member]
  · intro node listed
    rw [Table.get?_insert]
    by_cases same : n = node
    · subst same
      rw [if_pos rfl, placeAfter_self, placeFrom_set set]
    · rw [if_neg same, placeAfter_other (Ne.symm same)]
      exact held.images_eq node listed
  · obtain ⟨drawn, split, places⟩ := held.edges_split
    obtain ⟨later, onward, redirected⟩ := absorbed_edges split (away_from_copy wf second.nodes n)
      (ne_copy wf target second.nodes n)
    have reordered : ((drawn.filter fun e =>
        !e.touches (handleOf first.nextNode second.nodes n)) ++
          drawn.filter fun e => e.touches (handleOf first.nextNode second.nodes n)).Perm drawn :=
      List.perm_append_comm.trans (List.filter_append_perm _ drawn)
    refine ⟨later, onward, redirected ▸ (reordered.map _).trans ?_⟩
    have moved := places.map (Prod.map (redirect (handleOf first.nextNode second.nodes n) t)
      (redirect (handleOf first.nextNode second.nodes n) t))
    rw [List.map_map, List.map_map] at moved
    refine moved.trans (List.Perm.of_eq (List.map_congr_left fun e listed => ?_))
    exact (placeAfter_ends wf other valid set member ahead listed).symm

/-- Settling a node that is not identified leaves it at its copy. -/
theorem settle_unset_run {g : Graph} {identified : Table NodeId NodeId}
    (images : Table NodeId NodeId) (member : n ∈ second.nodes)
    (unset : identified.get? n = none) :
    settle (.other second) identified images n g = .ok images g := by
  have required : Assignment.requireKey second n = .ok () := if_pos member
  refine (bind_of_ok (Operand.read_other second g)).trans ((bind_of_ok (ofExcept_of_ok required g)).trans ?_)
  simp only [unset]
  rfl

/-- Settling an identified node lets its copy be absorbed. -/
theorem settle_set_run {g reached : Graph} {identified : Table NodeId NodeId} {copy : NodeId}
    (member : n ∈ second.nodes) (set : identified.get? n = some t)
    (fetched : images.fetch n = .ok copy) (absorbs : absorb copy t g = .ok () reached) :
    settle (.other second) identified images n g = .ok (images.insert n t) reached := by
  have required : Assignment.requireKey second n = .ok () := if_pos member
  refine (bind_of_ok (Operand.read_other second g)).trans ((bind_of_ok (ofExcept_of_ok required g)).trans ?_)
  simp only [set]
  exact (bind_of_ok (ofExcept_of_ok fetched g)).trans (bind_of_ok absorbs)

/-- The graph after a node of the second graph has been settled. -/
def settling (first second : Graph) (values : Assignment) (node : NodeId) (g : Graph) : Graph :=
  match values.target? node with
  | none => g
  | some target => g.absorbed (handleOf first.nextNode second.nodes node) target

/-- The next node has not been settled yet. -/
theorem next_ahead {nodes : List NodeId} (distinct : nodes.Nodup)
    (cut : nodes = done ++ n :: rest) : n ∈ nodes ∧ n ∉ done := by
  subst cut
  refine ⟨List.mem_append_cons_self, fun behind => ?_⟩
  exact (List.nodup_append.mp distinct).2.2 n behind n List.mem_cons_self rfl

/-- Settling the next node absorbs its copy if it is identified, and leaves it settled. -/
theorem settle_step {g : Graph} (wf : first.WellFormed) (other : second.WellFormed)
    (valid : values.PointsInto second first) (cut : second.nodes = done ++ n :: rest)
    (held : Settled first second values done images g) :
    ∃ next,
      settle (.other second) ⟨values.identifications second.nodes⟩ images n g =
        .ok next (settling first second values n g) ∧
      Settled first second values (done ++ [n]) next (settling first second values n g) := by
  obtain ⟨member, ahead⟩ := next_ahead other.nodes_nodup cut
  have found : (⟨values.identifications second.nodes⟩ : Table NodeId NodeId).get? n =
      values.target? n := by
    rw [Table.get?, Assignment.lookup_identifications, if_pos member]
  rw [settling]
  cases set : values.target? n with
  | none =>
    have ran := settle_unset_run (g := g) images member (found.trans set)
    refine ⟨images, ran, held.wellFormed, ?_, held.keys_eq, ?_, ?_⟩
    · rw [standing_unset set]
      exact held.nodes_eq
    · intro node listed
      rw [placeAfter_unset set]
      exact held.images_eq node listed
    · simp only [funext (placeAfter_unset set)]
      exact held.edges_split
  | some t =>
    have fetched : images.fetch n = .ok (handleOf first.nextNode second.nodes n) := by
      rw [Table.fetch, held.images_eq n member, placeAfter, if_neg ahead]
    have absorbs := absorb_run held.wellFormed (held.copy_mem member ahead)
      (held.old_mem (valid.target_mem member set))
    exact ⟨_, settle_set_run member (found.trans set) fetched absorbs,
      settled_absorbed wf other valid held set member ahead⟩

/-- Settling the next node leaves it settled too. -/
theorem settle_next {g : Graph} (wf : first.WellFormed) (other : second.WellFormed)
    (valid : values.PointsInto second first) (cut : second.nodes = done ++ n :: rest)
    (held : Settled first second values done images g) :
    ∃ next reached,
      settle (.other second) ⟨values.identifications second.nodes⟩ images n g = .ok next reached ∧
        Settled first second values (done ++ [n]) next reached := by
  obtain ⟨next, ran, onward⟩ := settle_step wf other valid cut held
  exact ⟨next, _, ran, onward⟩

/-- Settling all nodes of the second graph brings each to its place. -/
theorem settle_all (wf : first.WellFormed) (other : second.WellFormed)
    (valid : values.PointsInto second first) :
    ∃ images g, second.nodes.foldlM
        (settle (.other second) ⟨values.identifications second.nodes⟩)
        ⟨second.nodes.zip (handlesFrom first.nextNode second.nodes.length)⟩
        ((first.withNodes second.nodes.length).withEdges
          (second.edges.map (Edge.endsUnder (handleOf first.nextNode second.nodes)))) =
        .ok images g ∧ Settled first second values second.nodes images g :=
  foldlM_invariant (Settled first second values) (settled_start wf other values) fun _ _ _ _ _ cut held =>
    settle_next wf other valid cut held

/-! ## Edges between the graphs -/

/-- The pairs of an old node of the first graph and a node of the second that are joined, unless
they are one. -/
def crossPairs (old nodes : List NodeId) (place : NodeId → NodeId) : List (NodeId × NodeId) :=
  nodes.flatMap fun node => (old.filter fun n => n ≠ place node).map fun n => (n, place node)

/-- All nodes of the second graph are joined to the old nodes of the first. -/
theorem crossEdges_draws {nodes old inside : List NodeId} {place : NodeId → NodeId}
    (known : ∀ node ∈ inside, images.get? node = some (place node))
    (held : ∀ node ∈ old, node ∈ nodes) (reached : ∀ node ∈ inside, place node ∈ nodes) :
    Draws nodes (inside.forM (crossEdges old images)) () (crossPairs old inside place) := by
  refine draws_forM fun node member => ?_
  have fetched : images.fetch node = .ok (place node) := by
    rw [Table.fetch, known node member]
  refine draws_checked fetched (draws_chosen fun n listed => ?_)
  unfold crossEdge
  by_cases same : n = place node
  · rw [if_pos same, if_neg (by simp [same])]
    exact draws_pure ()
  · rw [if_neg same, if_pos (by simp [same])]
    exact draws_newEdge (held n listed) (reached node member)

theorem mem_crossPairs {old nodes : List NodeId} {place : NodeId → NodeId}
    {pair : NodeId × NodeId} :
    pair ∈ crossPairs old nodes place ↔
      ∃ n ∈ old, ∃ node ∈ nodes, n ≠ place node ∧ pair = (n, place node) := by
  simp only [crossPairs, List.mem_flatMap, List.mem_map, List.mem_filter, decide_eq_true_eq]
  constructor
  · rintro ⟨node, member, n, ⟨held, apart⟩, rfl⟩
    exact ⟨n, held, node, member, apart, rfl⟩
  · rintro ⟨n, held, node, member, apart, rfl⟩
    exact ⟨node, member, n, ⟨held, apart⟩, rfl⟩

/-! ## The join -/

theorem placeAfter_all {counter : NodeId} {nodes : List NodeId} {node : NodeId}
    (member : node ∈ nodes) :
    placeAfter values counter nodes nodes node = values.placeFrom counter nodes node :=
  if_pos member

/-- In the end every node of the second graph is at its place among the nodes. -/
theorem Settled.place_mem {g : Graph} (valid : values.PointsInto second first)
    (held : Settled first second values second.nodes images g) (member : n ∈ second.nodes) :
    values.placeFrom first.nextNode second.nodes n ∈ g.nodes := by
  cases set : values.target? n with
  | some target =>
    rw [placeFrom_set set]
    exact held.old_mem (valid.target_mem member set)
  | none =>
    have stands : n ∈ standing values second.nodes second.nodes :=
      List.mem_filter.mpr ⟨member, by simp [set]⟩
    rw [placeFrom_unset set, held.nodes_eq]
    exact List.mem_append_right _ (List.mem_map_of_mem stands)

/-- The settled graph with all edges between the graphs, before parallel edges are removed. -/
def crossed (first second : Graph) (values : Assignment) (g : Graph) : Graph :=
  g.withEdges (crossPairs first.nodes second.nodes (values.placeFrom first.nextNode second.nodes))

/-- The graph that the join leaves: of every pair the first edge is left. -/
def joinedFrom (first second : Graph) (values : Assignment) (g : Graph) : Graph :=
  { crossed first second values g with
    edges := firsts false [] (crossed first second values g).edges }

theorem crossed_wellFormed {g : Graph} (valid : values.PointsInto second first)
    (held : Settled first second values second.nodes images g) :
    (crossed first second values g).WellFormed := by
  refine (becomes_withEdges fun pair listed => ?_).wellFormed held.wellFormed
  obtain ⟨n, old, node, member, _, rfl⟩ := mem_crossPairs.mp listed
  exact ⟨held.old_mem old, held.place_mem valid member⟩

/-- Copies the second graph and lets the nodes that it is identified with absorb the copies. Answers
where the nodes of the second graph are then. -/
def placeCopies (second : Operand) (identified : Table NodeId NodeId) (first : Graph) :
    Action Graph (Table NodeId NodeId) := do
  let copies := (← insert (second.view first)).nodes
  (← second.read).nodes.foldlM (settle second identified) copies

/-- Joins the old nodes to the placed nodes of the second graph and removes parallel edges. -/
def crossOver (second : Operand) (old : List NodeId) (images : Table NodeId NodeId) :
    Action Graph Nat := do
  (← second.read).nodes.forM (crossEdges old images)
  removeParallel false

/-- A join places the second graph first, and then the edges between the graphs are drawn. -/
theorem join_eq (second : Operand) (preset : Assignment) :
    join second preset = (do
      let first ← get
      let identified ← Action.ofExcept
        (preset.resolve (second.view first) first .identifiedOutside)
      let images ← placeCopies second identified first
      let removed ← crossOver second first.nodes images
      let joined ← get
      return (images, .join identified.size removed joined.nodeCount joined.edgeCount)) := by
  simp only [join, placeCopies, crossOver, bind_assoc]

theorem placeCopies_run (other : second.WellFormed) {g : Graph}
    (settled : second.nodes.foldlM
        (settle (.other second) ⟨values.identifications second.nodes⟩)
        ⟨second.nodes.zip (handlesFrom first.nextNode second.nodes.length)⟩
        ((first.withNodes second.nodes.length).withEdges
          (second.edges.map (Edge.endsUnder (handleOf first.nextNode second.nodes)))) =
        .ok images g) :
    placeCopies (.other second) ⟨values.identifications second.nodes⟩ first first =
      .ok images g :=
  (bind_of_ok (insert_run other)).trans ((bind_of_ok (Operand.read_other second _)).trans settled)

theorem crossOver_run {g : Graph} (valid : values.PointsInto second first)
    (held : Settled first second values second.nodes images g) :
    crossOver (.other second) first.nodes images g =
      .ok ((crossed first second values g).parallelCount false)
        (joinedFrom first second values g) := by
  have drawn : Draws g.nodes (second.nodes.forM (crossEdges first.nodes images)) ()
      (crossPairs first.nodes second.nodes
        (values.placeFrom first.nextNode second.nodes)) := crossEdges_draws
    (fun node member => by rw [held.images_eq node member, placeAfter_all member])
    (fun _ old => held.old_mem old) (fun _ member => held.place_mem valid member)
  have removed := removeParallel_run (crossed_wellFormed valid held).ids_nodup false
  exact (bind_of_ok (Operand.read_other second g)).trans ((bind_of_ok (drawn g rfl)).trans removed)

/-- From the placed second graph on a join draws the edges between the graphs and leaves the first
edge of every bundle. -/
theorem join_of_placed (other : second.WellFormed) (valid : values.PointsInto second first)
    {g : Graph} (placed : placeCopies (.other second) ⟨values.identifications second.nodes⟩ first
      first = .ok images g) (held : Settled first second values second.nodes images g) :
    join (.other second) values first =
      .ok (images, .join (values.identifications second.nodes).length
          ((crossed first second values g).parallelCount false) g.nodes.length
          (firsts false [] (crossed first second values g).edges).length)
        (joinedFrom first second values g) := by
  have resolved := Assignment.resolve_run valid other.nodes_nodup .identifiedOutside
  rw [join_eq, get_bind_run]
  refine (bind_of_ok (ofExcept_of_ok resolved first)).trans ((bind_of_ok placed).trans ?_)
  exact bind_of_ok (crossOver_run valid held)

/-- The join settles the second graph, joins it to the first and leaves the first edge of every
bundle. -/
theorem join_run (wf : first.WellFormed) (other : second.WellFormed)
    (valid : values.PointsInto second first) :
    ∃ images g, Settled first second values second.nodes images g ∧
      join (.other second) values first =
        .ok (images, .join (values.identifications second.nodes).length
            ((crossed first second values g).parallelCount false) g.nodes.length
            (firsts false [] (crossed first second values g).edges).length)
          { crossed first second values g with
            edges := firsts false [] (crossed first second values g).edges } := by
  obtain ⟨images, g, settled, held⟩ := settle_all wf other valid
  exact ⟨images, g, held, join_of_placed other valid (placeCopies_run other settled) held⟩

/-- What it is for a graph to be the join of two others when the nodes of the second are where
`place` sends them. -/
structure Joins (first second : Graph) (values : Assignment) (place : NodeId → NodeId)
    (after : Graph) : Prop where
  /-- The nodes that are not identified are new. -/
  nodes_eq : after.nodes = first.nodes ++ (values.unsetNodes second).map place
  /-- Two nodes are joined once if something joins them, and not at all otherwise. -/
  joined_once : ∀ pair, after.edges.countP (fun e => e.pair = pair) =
    if (∃ e ∈ first.edges, e.pair = pair) ∨ (∃ e ∈ second.edges, e.pair.map place = pair) ∨
        (∃ n ∈ first.nodes, ∃ node ∈ second.nodes, n ≠ place node ∧ s(n, place node) = pair)
    then 1 else 0

/-- The nodes left in the end are the old ones and the copies of those that are not identified. -/
theorem Settled.nodes_all {g : Graph} (valid : values.PointsInto second first)
    (held : Settled first second values second.nodes images g) :
    g.nodes = first.nodes ++
      (values.unsetNodes second).map (values.placeFrom first.nextNode second.nodes) := by
  have unset : standing values second.nodes second.nodes = values.unsetNodes second := by
    refine List.filter_congr fun node member => ?_
    simp [valid.isSome_target member, member]
  rw [held.nodes_eq, unset]
  refine congrArg (first.nodes ++ ·) (List.map_congr_left fun node listed => ?_)
  obtain ⟨member, bare⟩ := List.mem_filter.mp listed
  have nowhere : values.target? node = none := by
    rw [← Option.not_isSome_iff_eq_none, valid.isSome_target member, bare]
    exact Bool.false_ne_true
  exact (placeFrom_unset nowhere).symm

/-- A pair is joined before parallel edges are removed if the first graph joins it, the second
does, or it is a pair between them. -/
theorem crossed_joins {g : Graph} (other : second.WellFormed)
    (held : Settled first second values second.nodes images g)
    (pair : Sym2 NodeId) :
    (∃ e ∈ (crossed first second values g).edges, e.pair = pair) ↔
      (∃ e ∈ first.edges, e.pair = pair) ∨
      (∃ e ∈ second.edges,
        e.pair.map (values.placeFrom first.nextNode second.nodes) = pair) ∨
      ∃ n ∈ first.nodes, ∃ node ∈ second.nodes,
        n ≠ values.placeFrom first.nextNode second.nodes node ∧
          s(n, values.placeFrom first.nextNode second.nodes node) = pair := by
  obtain ⟨drawn, split, places⟩ := held.edges_split
  have copied : (∃ e ∈ drawn, e.pair = pair) ↔
      ∃ e ∈ second.edges, e.pair.map (values.placeFrom first.nextNode second.nodes) = pair := by
    have ends : second.edges.map (Edge.endsUnder
        (placeAfter values first.nextNode second.nodes second.nodes)) =
          second.edges.map (Edge.endsUnder (values.placeFrom first.nextNode second.nodes)) := by
      refine List.map_congr_left fun e member => ?_
      obtain ⟨source, target⟩ := other.ends_mem e member
      rw [Edge.endsUnder, placeAfter_all source, placeAfter_all target, Edge.endsUnder]
    rw [ends] at places
    rw [Edge.exists_pair_iff places]
    constructor
    · rintro ⟨x, listed, same⟩
      obtain ⟨e, member, rfl⟩ := List.mem_map.mp listed
      exact ⟨e, member, same⟩
    · rintro ⟨e, member, same⟩
      exact ⟨_, List.mem_map_of_mem member, same⟩
  have between : (∃ e ∈ Edge.numbered g.nextEdge (crossPairs first.nodes second.nodes
        (values.placeFrom first.nextNode second.nodes)), e.pair = pair) ↔
      ∃ n ∈ first.nodes, ∃ node ∈ second.nodes,
        n ≠ values.placeFrom first.nextNode second.nodes node ∧
          s(n, values.placeFrom first.nextNode second.nodes node) = pair := by
    rw [Edge.exists_pair_iff (List.Perm.of_eq (Edge.map_ends_numbered _ _))]
    constructor
    · rintro ⟨x, listed, same⟩
      obtain ⟨n, old, node, member, apart, rfl⟩ := mem_crossPairs.mp listed
      exact ⟨n, old, node, member, apart, same⟩
    · rintro ⟨n, old, node, member, apart, same⟩
      exact ⟨_, mem_crossPairs.mpr ⟨n, old, node, member, apart, rfl⟩, same⟩
  rw [crossed, edges_withEdges, split, ← copied, ← between]
  simp only [List.mem_append, or_and_right, exists_or, or_assoc]

theorem joins_of_settled {g : Graph} (other : second.WellFormed)
    (valid : values.PointsInto second first)
    (held : Settled first second values second.nodes images g) :
    Joins first second values (values.placeFrom first.nextNode second.nodes)
      (joinedFrom first second values g) := by
  have nodes := held.nodes_all valid
  refine ⟨nodes, fun pair => ?_⟩
  rw [joinedFrom, countP_pair_firsts]
  simp only [crossed_joins other held]

/-- The join in terms of nodes and pairs. -/
theorem join_joins (wf : first.WellFormed) (other : second.WellFormed)
    (valid : values.PointsInto second first) :
    ∃ images event after, join (.other second) values first = .ok (images, event) after ∧
      images.keys = second.nodes ∧
      (∀ node ∈ second.nodes,
        images.get? node = some (values.placeFrom first.nextNode second.nodes node)) ∧
      Joins first second values (values.placeFrom first.nextNode second.nodes) after := by
  obtain ⟨images, g, held, ran⟩ := join_run wf other valid
  refine ⟨images, _, _, ran, held.keys_eq, fun node member => ?_,
    joins_of_settled other valid held⟩
  rw [held.images_eq node member, placeAfter_all member]

end Graph

namespace Workspace

/-- In every workspace that commands lead to, the join of two graphs under a correspondence whose
values are nodes of the first succeeds. It sends every node of the second graph to the node it is
identified with, or else to a new node, the new nodes being in its order; it leaves the second
graph alone; and it joins two nodes exactly once if a graph joined them or they lie on either
side. -/
theorem join_exact {w : Workspace} (reached : w.Reachable) {first second : GraphId} {m : MapId}
    (apart : first ≠ second) (held : first < w.graphs.length)
    (bound : w.isBoundTo m second = true)
    (valid : (w.map m).values.PointsInto (w.graph second) (w.graph first)) :
    ∃ event after,
      run (.join first second m) w = .ok { answer := .map m, event := some event } after ∧
      Graph.Joins (w.graph first) (w.graph second) (w.map m).values
        ((w.map m).values.placeFrom (w.graph first).nextNode (w.graph second).nodes)
        (after.graph first) ∧
      (∀ node ∈ (w.graph second).nodes, after.readKey m node = .ok (some (.int
        ((w.map m).values.placeFrom (w.graph first).nextNode (w.graph second).nodes node)))) ∧
      after.graph second = w.graph second := by
  obtain ⟨images, event, joined, ran, keys, places, joins⟩ :=
    Graph.join_joins (reached.wellFormed first) (reached.wellFormed second) valid
  have operand : w.operand first second = .other (w.graph second) := if_neg (Ne.symm apart)
  have required : requireBinding m second .joinMapElsewhere w = .ok () w := by
    rw [requireBinding, get_bind_run, if_pos bound]
    rfl
  have present := present_of_isBoundTo bound
  obtain ⟨after, made⟩ : ∃ after, after = (w.setGraph first joined).setMap m { (w.map m) with
    values := (w.map m).values.recordImages images } := ⟨_, rfl⟩
  have first_after : after.graph first = joined := by
    rw [made]
    exact (graph_setGraph w first first joined).trans (if_pos ⟨rfl, held⟩)
  have second_after : after.graph second = w.graph second := by
    rw [made]
    exact (graph_setGraph w first second joined).trans (if_neg fun same => apart same.1)
  have map_after : after.map m =
      { (w.map m) with values := (w.map m).values.recordImages images } := by
    rw [made]
    exact map_setMap present _
  have still : after.isBoundTo m second = true := by
    rw [isBoundTo, map_after]
    exact bound
  refine ⟨event, after, ?_, ?_, fun node member => ?_, second_after⟩
  · rw [← operand] at ran
    rw [made]
    exact (bind_of_ok required).trans ((get_bind_run _ w).trans
      ((bind_of_ok (onGraph_run ran)).trans (bind_of_ok (recordImages_run _ m images))))
  · rw [first_after]
    exact joins
  · rw [readKey_run still (second_after ▸ member), map_after,
      Assignment.get?_recordImages _ (keys ▸ (reached.wellFormed second).nodes_nodup),
      places node member]

/-- Two graphs with gaps in their handles, and a correspondence that identifies two adjacent nodes
of the second with one node of the first. Joining them makes a loop there. -/
def folded : List Command :=
  [.newGraph, .newNode 0, .newNode 0, .newNode 0, .deleteNode 0 1, .newEdge 0 0 2, .newEdge 0 2 0,
    .newGraph, .newNode 1, .newNode 1, .newNode 1, .newNode 1, .deleteNode 1 0, .newEdge 1 1 2,
    .newEdge 1 3 2, .newEdge 1 3 3, .newMap (some 1), .write 0 1 (some (.int 2)),
    .write 0 2 (some (.int 2))]

theorem join_exact_folded :
    Reachable (runAll {} folded) ∧ 0 ≠ 1 ∧ 0 < (runAll {} folded).graphs.length ∧
    (runAll {} folded).isBoundTo 0 1 = true ∧
    ((runAll {} folded).map 0).values.PointsInto ((runAll {} folded).graph 1)
      ((runAll {} folded).graph 0) ∧
    ∃ event after,
      run (.join 0 1 0) (runAll {} folded) = .ok { answer := .map 0, event := some event } after ∧
      Graph.Joins ((runAll {} folded).graph 0) ((runAll {} folded).graph 1)
        ((runAll {} folded).map 0).values
        (((runAll {} folded).map 0).values.placeFrom ((runAll {} folded).graph 0).nextNode
          ((runAll {} folded).graph 1).nodes)
        (after.graph 0) ∧
      (∀ node ∈ ((runAll {} folded).graph 1).nodes, after.readKey 0 node = .ok (some (.int
        (((runAll {} folded).map 0).values.placeFrom ((runAll {} folded).graph 0).nextNode
          ((runAll {} folded).graph 1).nodes node)))) ∧
      after.graph 1 = (runAll {} folded).graph 1 ∧
      (after.graph 0).nodes = [0, 2, 5] ∧
      (after.graph 0).edges = [⟨0, 0, 2⟩, ⟨4, 5, 5⟩, ⟨6, 5, 2⟩, ⟨7, 2, 2⟩, ⟨10, 0, 5⟩] := by
  have reached : Reachable (runAll {} folded) :=
    reachable_runAll .empty (by simp [folded, Command.Proper])
  have apart : 0 ≠ 1 := by decide
  have held : 0 < (runAll {} folded).graphs.length := by decide
  have bound : (runAll {} folded).isBoundTo 0 1 = true := by decide
  have valid : ((runAll {} folded).map 0).values.PointsInto ((runAll {} folded).graph 1)
      ((runAll {} folded).graph 0) := by decide
  obtain ⟨event, after, ran, joins, places, second_after⟩ :=
    join_exact reached apart held bound valid
  obtain rfl : (runAll {} folded).step (.join 0 1 0) = after := after_of_ok ran
  exact ⟨reached, apart, held, bound, valid, event, _, ran, joins, places, second_after,
    by decide +kernel, by decide +kernel⟩

end Workspace

end Multigraph
