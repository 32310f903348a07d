import Multigraph.Proofs.Graph.Drawing
import Multigraph.Proofs.Graph.Parallel
import Multigraph.Proofs.Workspace.Reachable

/-!
What the complement makes of a graph. The sweep meets every edge in scope at one node and from
there reaches one other, which is how `Edge.bundle` orders its ends. After the nodes `swept` the
graph is `sweptGraph policy g swept`: the edges in scope that are met at one of these nodes are
gone, and between these nodes and all others the missing pairs are joined. That invariant carries
the sweep to its end, where no edge in scope is left (`complement_run`).
-/
namespace Multigraph

open Multigraph.Action

namespace Graph

/-- Whether the complement exchanges an edge: a loop only if loops are allowed. -/
def exchanged (policy : ComplementPolicy) (e : Edge) : Bool :=
  policy.allowSelfLoops || !e.isLoop

/-- Whether an edge of before the sweep goes when a node is swept. -/
def met (policy : ComplementPolicy) (fresh : EdgeId) (n : NodeId) (e : Edge) : Bool :=
  exchanged policy e && (e.bundle policy.directional).1 = n && e.id < fresh

/-- Whether a pair of nodes is in scope without an edge, seen from the first of them. -/
def missing (policy : ComplementPolicy) (g : Graph) (n m : NodeId) : Bool :=
  pairInScope policy n m && !g.edges.any fun e => e.bundle policy.directional = (n, m)

/-- The pairs that the sweep joins at some nodes, in its order. -/
def missingPairs (policy : ComplementPolicy) (g : Graph) (swept : List NodeId) :
    List (NodeId × NodeId) :=
  swept.flatMap fun n => (g.nodes.filter (missing policy g n)).map fun m => (n, m)

/-- The edges that are left when some nodes have been swept. -/
def keptEdges (policy : ComplementPolicy) (g : Graph) (swept : List NodeId) : List Edge :=
  g.edges.filter fun e => !(exchanged policy e && (e.bundle policy.directional).1 ∈ swept)

/-- How many edges have gone and how many were made when some nodes have been swept. -/
def sweptCounts (policy : ComplementPolicy) (g : Graph) (swept : List NodeId) : Nat × Nat :=
  (g.edges.countP fun e => exchanged policy e && (e.bundle policy.directional).1 ∈ swept,
    (missingPairs policy g swept).length)

/-- The graph when some of its nodes have been swept. -/
def sweptGraph (policy : ComplementPolicy) (g : Graph) (swept : List NodeId) : Graph :=
  { g with edges := keptEdges policy g swept }.withEdges (missingPairs policy g swept)

/-! ## The edges at a swept node -/

variable {policy : ComplementPolicy} {fresh : EdgeId} {n : NodeId} {h : Graph}

/-- An incidence in scope of an edge that is there and was there before the sweep: the edge goes,
and the node at its other end is reached. -/
theorem sweepIncidence_deletes {reached : List NodeId} {i : Incidence} {e : Edge}
    (inScope : incidenceInScope policy i = true) (same : i.edge = e.id) (old : e.id < fresh)
    (member : e ∈ h.edges) :
    sweepIncidence policy fresh reached i h = .ok (i.twin :: reached) (h.withoutEdge e.id) := by
  have goes : (incidenceInScope policy i && decide (i.edge < fresh) && h.hasEdge i.edge) = true := by
    simp [inScope, same, old, hasEdge_of_mem member]
  rw [sweepIncidence, get_bind_run, if_pos goes, same]
  exact bind_of_ok (deleteEdge_of_mem member)

/-- Any other incidence is passed over. -/
theorem sweepIncidence_passes {reached : List NodeId} {i : Incidence}
    (stays : (incidenceInScope policy i && decide (i.edge < fresh) && h.hasEdge i.edge) = false) :
    sweepIncidence policy fresh reached i h = .ok reached h := by
  rw [sweepIncidence, get_bind_run, if_neg (by simp [stays])]
  rfl

/-- The only incidence of an edge at the swept node decides over the edge. -/
theorem sweepIncidence_run {reached : List NodeId} {i : Incidence} {e : Edge} {m : NodeId}
    (same : i.edge = e.id) (member : e ∈ h.edges)
    (decides : (incidenceInScope policy i && decide (e.id < fresh)) = met policy fresh n e)
    (reaches : met policy fresh n e = true → i.twin = m) :
    sweepIncidence policy fresh reached i h =
      if met policy fresh n e then .ok (m :: reached) (h.withoutEdge e.id) else .ok reached h := by
  cases goes : met policy fresh n e with
  | true =>
    rw [goes, Bool.and_eq_true, decide_eq_true_eq] at decides
    rw [if_pos rfl, ← reaches goes]
    exact sweepIncidence_deletes decides.1 same decides.2 member
  | false =>
    rw [goes] at decides
    rw [if_neg (by simp)]
    exact sweepIncidence_passes (by rw [same, decides, Bool.false_and])

/-- A loop is seen twice at its node, and is gone when it is seen again. -/
theorem sweepLoop_run {reached : List NodeId} {e : Edge} (member : e ∈ h.edges)
    (atSource : e.source = n) (atTarget : e.target = n) :
    (e.incidencesAt n).foldlM (sweepIncidence policy fresh) reached h =
      if met policy fresh n e then .ok (n :: reached) (h.withoutEdge e.id) else .ok reached h := by
  have twice : e.incidencesAt n = [⟨e.id, n, n, true⟩, ⟨e.id, n, n, false⟩] := by
    simp [Edge.incidencesAt, atSource, atTarget]
  have first : sweepIncidence policy fresh reached ⟨e.id, n, n, true⟩ h =
      if met policy fresh n e then .ok (n :: reached) (h.withoutEdge e.id) else .ok reached h := by
    refine sweepIncidence_run rfl member ?_ fun _ => rfl
    simp [incidenceInScope, pairInScope, met, exchanged, Edge.isLoop, Edge.bundle, atSource,
      atTarget]
  rw [twice]
  cases goes : met policy fresh n e with
  | true =>
    rw [goes, if_pos rfl] at first
    rw [foldlM_cons_of_ok first, foldlM_singleton, if_pos rfl]
    apply sweepIncidence_passes
    rw [hasEdge_withoutEdge, Bool.and_false]
  | false =>
    rw [goes, if_neg (by simp)] at first
    rw [foldlM_cons_of_ok first, foldlM_singleton, if_neg (by simp)]
    apply sweepIncidence_passes
    simp only [met, exchanged, Edge.isLoop, Edge.bundle, atSource, atTarget, decide_true,
      Bool.not_true, Bool.or_false, Int.le_refl, or_true, if_true, Bool.and_true] at goes
    simp only [incidenceInScope, pairInScope, ne_eq, not_true_eq_false, decide_false, Bool.or_false]
    grind

/-- At a swept node an edge goes if it is met there, whether it has one incidence or two. -/
theorem sweepEdge_run (policy : ComplementPolicy) (fresh : EdgeId) (n : NodeId)
    (reached : List NodeId) {e : Edge} (member : e ∈ h.edges) :
    (e.incidencesAt n).foldlM (sweepIncidence policy fresh) reached h =
      if met policy fresh n e then
        .ok ((e.bundle policy.directional).2 :: reached) (h.withoutEdge e.id)
      else .ok reached h := by
  -- A loop has both incidences here, and the second of them finds the edge gone.
  by_cases atSource : e.source = n
  · by_cases atTarget : e.target = n
    · have bundle : (e.bundle policy.directional).2 = n := by
        simp [Edge.bundle, atSource, atTarget]
      rw [bundle]
      exact sweepLoop_run member atSource atTarget
    · have once : e.incidencesAt n = [⟨e.id, n, e.target, true⟩] := by
        simp [Edge.incidencesAt, atSource, atTarget]
      rw [once, foldlM_singleton]
      refine sweepIncidence_run rfl member ?_ ?_
      · simp only [incidenceInScope, pairInScope, met, exchanged, Edge.isLoop, Edge.bundle]
        grind
      · simp only [met, Edge.bundle]
        grind
  · by_cases atTarget : e.target = n
    · have once : e.incidencesAt n = [⟨e.id, n, e.source, false⟩] := by
        simp [Edge.incidencesAt, atSource, atTarget]
      rw [once, foldlM_singleton]
      refine sweepIncidence_run rfl member ?_ ?_
      · simp only [incidenceInScope, pairInScope, met, exchanged, Edge.isLoop, Edge.bundle]
        grind
      · simp only [met, Edge.bundle]
        grind
    · have never : met policy fresh n e = false := by
        simp only [met, Edge.bundle]
        grind
      rw [incidencesAt_of_not_touches (by simp [Edge.touches, atSource, atTarget]), never]
      rfl

/-- Seen edge by edge, a sweep deletes the edges that are met. -/
theorem sweepEdges_run {es : List Edge} {reached : List NodeId} (held : ∀ e ∈ es, e ∈ h.edges)
    (distinct : (es.map Edge.id).Nodup) :
    (es.flatMap fun e => e.incidencesAt n).foldlM (sweepIncidence policy fresh) reached h =
      .ok (((es.filter (met policy fresh n)).map fun e => (e.bundle policy.directional).2).reverse
          ++ reached)
        (h.withoutEdges ((es.filter (met policy fresh n)).map Edge.id)) := by
  induction es generalizing reached h with
  | nil => exact congrArg (EStateM.Result.ok reached) (withoutEdges_nil h).symm
  | cons e rest ih =>
    have here := sweepEdge_run policy fresh n reached (held e List.mem_cons_self)
    have others := (List.nodup_cons.mp distinct).2
    rw [List.flatMap_cons]
    cases goes : met policy fresh n e with
    | true =>
      rw [goes, if_pos rfl] at here
      rw [foldlM_append_of_ok here, ih (mem_withoutEdge distinct held) others,
        List.filter_cons_of_pos goes, List.map_cons, List.map_cons, withoutEdges_cons,
        List.reverse_cons, List.append_assoc, List.singleton_append]
    | false =>
      rw [goes, if_neg (by simp)] at here
      rw [foldlM_append_of_ok here,
        ih (fun f member => held f (List.mem_cons_of_mem e member)) others,
        List.filter_cons_of_neg (by simp [goes])]

/-- All incidences of a swept node: the edges met there go, and their other ends are reached. -/
theorem sweepIncidences_run (policy : ComplementPolicy) (fresh : EdgeId) (n : NodeId)
    (distinct : (h.edges.map Edge.id).Nodup) :
    (h.incidences n).foldlM (sweepIncidence policy fresh) [] h =
      .ok ((h.edges.filter (met policy fresh n)).map
          fun e => (e.bundle policy.directional).2).reverse
        { h with edges := h.edges.filter fun e => !met policy fresh n e } := by
  rw [incidences_eq_flatMap, sweepEdges_run (fun e member => member) distinct,
    withoutEdges_filter distinct, List.append_nil]

/-- The swept node is joined to every node in scope that was not reached. -/
theorem sweepPairs_draws (policy : ComplementPolicy) {nodes : List NodeId} (held : n ∈ nodes)
    (reached : List NodeId) (created : Nat) :
    Draws nodes (nodes.foldlM (sweepPair policy reached n) created)
      (created + (nodes.filter fun m => pairInScope policy n m && decide (m ∉ reached)).length)
      ((nodes.filter fun m => pairInScope policy n m && decide (m ∉ reached)).map
        fun m => (n, m)) := by
  refine draws_counted (fun count m member => ?_) created
  rw [sweepPair]
  split
  · exact draws_bind (draws_newEdge held member) (draws_pure (count + 1))
  · exact draws_pure count

/-- Sweeping a node: the edges met there go, and the node is joined to those that none of them
reached. -/
theorem sweepNode_run (counts : Nat × Nat) (held : n ∈ h.nodes)
    (distinct : (h.edges.map Edge.id).Nodup) {gone : List Edge} {joined : List NodeId}
    (goes : h.edges.filter (met policy fresh n) = gone)
    (joins : (h.nodes.filter fun m => pairInScope policy n m &&
      decide (m ∉ gone.map fun e => (e.bundle policy.directional).2)) = joined) :
    sweepNode policy fresh counts n h =
      .ok (counts.1 + gone.length, counts.2 + joined.length)
        ({ h with edges := h.edges.filter fun e => !met policy fresh n e }.withEdges
          (joined.map fun m => (n, m))) := by
  have swept := sweepIncidences_run policy fresh n distinct
  have drawn := sweepPairs_draws policy held
    (gone.map fun e => (e.bundle policy.directional).2).reverse counts.2
    { h with edges := h.edges.filter fun e => !met policy fresh n e } rfl
  simp only [List.mem_reverse, joins] at drawn
  rw [goes] at swept
  rw [sweepNode, bind_of_ok (query_atNode_run incidences held), bind_of_ok swept,
    get_bind_run, bind_of_ok drawn, List.length_reverse, List.length_map]
  rfl

/-! ## The invariant of the sweep -/

variable {g : Graph} {swept : List NodeId}

/-- The graph of the sweep has distinct handles, for the new ones are above the old ones. -/
theorem sweptGraph_distinct (wf : g.WellFormed) :
    ((sweptGraph policy g swept).edges.map Edge.id).Nodup := by
  have old : ((keptEdges policy g swept).map Edge.id).Nodup :=
    wf.ids_nodup.sublist (List.filter_sublist.map Edge.id)
  have new : (handlesFrom g.nextEdge (missingPairs policy g swept).length).Nodup :=
    (handlesFrom_increasing _ _).imp fun less => Int.ne_of_lt less
  rw [sweptGraph, edges_withEdges, List.map_append, Edge.map_id_numbered]
  refine List.nodup_append.mpr ⟨old, new, ?_⟩
  intro handle listed other later same
  obtain ⟨e, member, rfl⟩ := List.mem_map.mp listed
  have below := (wf.edges_below e (List.mem_filter.mp member).1).2
  have above := (mem_handlesFrom.mp later).1
  simp only at above
  lia

/-- At a node that has not been swept the sweep meets the edges of the first graph that it would
have met at once. -/
theorem met_sweptGraph (wf : g.WellFormed) (ahead : n ∉ swept) :
    (sweptGraph policy g swept).edges.filter (met policy g.nextEdge n) =
      g.edges.filter fun e => exchanged policy e && (e.bundle policy.directional).1 = n := by
  have new : (Edge.numbered g.nextEdge (missingPairs policy g swept)).filter
      (met policy g.nextEdge n) = [] := by
    refine List.filter_eq_nil_iff.mpr fun e member => ?_
    have above := Edge.le_id_of_mem_numbered member
    simp [met, above]
  rw [sweptGraph, edges_withEdges, List.filter_append, new, List.append_nil, keptEdges,
    List.filter_filter]
  refine List.filter_congr fun e member => ?_
  have below := (wf.edges_below e member).2
  simp only [met, below, decide_true, Bool.and_true]
  by_cases here : (e.bundle policy.directional).1 = n
  · simp [here, ahead]
  · simp [here]

/-- What is left when a node has been swept is what is left of the first graph when it counts as
swept too. -/
theorem unmet_sweptGraph (wf : g.WellFormed) :
    (sweptGraph policy g swept).edges.filter (fun e => !met policy g.nextEdge n e) =
      keptEdges policy g (swept ++ [n]) ++
        Edge.numbered g.nextEdge (missingPairs policy g swept) := by
  have new : (Edge.numbered g.nextEdge (missingPairs policy g swept)).filter
      (fun e => !met policy g.nextEdge n e) =
        Edge.numbered g.nextEdge (missingPairs policy g swept) := by
    refine List.filter_eq_self.mpr fun e member => ?_
    have above := Edge.le_id_of_mem_numbered member
    simp [met, above]
  rw [sweptGraph, edges_withEdges, List.filter_append, new, keptEdges, keptEdges,
    List.filter_filter]
  congr 1
  refine List.filter_congr fun e member => ?_
  have below := (wf.edges_below e member).2
  simp only [met, below, decide_true, Bool.and_true, List.mem_append, List.mem_singleton]
  cases exchanged policy e <;> simp [Bool.and_comm]

/-- An edge between a pair in scope is exchanged. -/
theorem exchanged_of_bundle {m : NodeId} {e : Edge} (scope : pairInScope policy n m = true)
    (between : e.bundle policy.directional = (n, m)) : exchanged policy e = true := by
  simp only [pairInScope, exchanged, Edge.isLoop, Edge.bundle] at scope between ⊢
  grind

/-- The nodes that a swept node is joined to are those missing in the first graph. -/
theorem not_reached_eq_missing (policy : ComplementPolicy) (g : Graph) (n m : NodeId) :
    (pairInScope policy n m && decide (m ∉ (g.edges.filter fun e =>
        exchanged policy e && (e.bundle policy.directional).1 = n).map
          fun e => (e.bundle policy.directional).2)) = missing policy g n m := by
  rw [missing]
  cases scope : pairInScope policy n m with
  | false => rfl
  | true =>
    have reached : (m ∈ (g.edges.filter fun e =>
        exchanged policy e && (e.bundle policy.directional).1 = n).map
          fun e => (e.bundle policy.directional).2) ↔
        (g.edges.any fun e => e.bundle policy.directional = (n, m)) = true := by
      simp only [List.mem_map, List.mem_filter, List.any_eq_true, Bool.and_eq_true,
        decide_eq_true_eq]
      constructor
      · rintro ⟨e, ⟨member, _, atNode⟩, other⟩
        exact ⟨e, member, Prod.ext atNode other⟩
      · rintro ⟨e, member, between⟩
        exact ⟨e, ⟨member, exchanged_of_bundle scope between, by rw [between]⟩, by rw [between]⟩
    simp only [reached, Bool.true_and]
    cases g.edges.any fun e => e.bundle policy.directional = (n, m) <;> rfl

theorem missingPairs_append (policy : ComplementPolicy) (g : Graph) (swept : List NodeId)
    (n : NodeId) :
    missingPairs policy g (swept ++ [n]) =
      missingPairs policy g swept ++ (g.nodes.filter (missing policy g n)).map fun m => (n, m) := by
  simp [missingPairs]

/-- The edges that have gone are counted by the node at which they are met. -/
theorem countP_append_swept (edges : List Edge) (ahead : n ∉ swept) :
    (edges.countP fun e =>
        exchanged policy e && decide ((e.bundle policy.directional).1 ∈ swept ++ [n])) =
      (edges.countP fun e =>
        exchanged policy e && decide ((e.bundle policy.directional).1 ∈ swept)) +
      (edges.filter fun e =>
        exchanged policy e && decide ((e.bundle policy.directional).1 = n)).length := by
  rw [← List.countP_eq_length_filter]
  induction edges with
  | nil => rfl
  | cons e rest ih =>
    simp only [List.countP_cons, ih]
    by_cases here : (e.bundle policy.directional).1 = n
    · simp only [here, ahead, List.mem_append, List.mem_singleton, or_true, decide_true,
        decide_false, Bool.and_true, Bool.and_false]
      simp only [Bool.false_eq_true, if_false]
      omega
    · simp only [here, List.mem_append, List.mem_singleton, or_false, decide_false,
        Bool.and_false, Bool.false_eq_true, if_false]
      omega

/-- One more node is swept. -/
theorem sweepNode_sweptGraph (wf : g.WellFormed) {rest : List NodeId}
    (cut : g.nodes = swept ++ n :: rest) :
    sweepNode policy g.nextEdge (sweptCounts policy g swept) n (sweptGraph policy g swept) =
      .ok (sweptCounts policy g (swept ++ [n])) (sweptGraph policy g (swept ++ [n])) := by
  have nodup : (swept ++ n :: rest).Nodup := cut ▸ wf.nodes_nodup
  have ahead : n ∉ swept := fun behind =>
    (List.nodup_append.mp nodup).2.2 n behind n List.mem_cons_self rfl
  have held : n ∈ (sweptGraph policy g swept).nodes := by
    change n ∈ g.nodes
    rw [cut]
    exact List.mem_append_right _ List.mem_cons_self
  have joined : ((sweptGraph policy g swept).nodes.filter fun m => pairInScope policy n m &&
      decide (m ∉ (g.edges.filter fun e =>
        exchanged policy e && (e.bundle policy.directional).1 = n).map
          fun e => (e.bundle policy.directional).2)) = g.nodes.filter (missing policy g n) :=
    List.filter_congr fun m _ => not_reached_eq_missing policy g n m
  rw [sweepNode_run (sweptCounts policy g swept) held (sweptGraph_distinct wf)
    (met_sweptGraph wf ahead) joined, unmet_sweptGraph wf]
  congr 1
  · simp only [sweptCounts, countP_append_swept g.edges ahead, missingPairs_append,
      List.length_append, List.length_map]
  · rw [sweptGraph, sweptGraph, missingPairs_append, withEdges_append]
    rfl

/-- Before the sweep nothing has happened. -/
theorem sweptGraph_nil (policy : ComplementPolicy) (g : Graph) : sweptGraph policy g [] = g := by
  have all : keptEdges policy g [] = g.edges := List.filter_eq_self.mpr fun e _ => by simp
  rw [sweptGraph, all]
  exact withEdges_nil g

theorem sweptCounts_nil (policy : ComplementPolicy) (g : Graph) :
    sweptCounts policy g [] = (0, 0) := by
  simp [sweptCounts, missingPairs]

theorem bundle_fst_mem (wf : g.WellFormed) (directed : Bool) {e : Edge} (member : e ∈ g.edges) :
    (e.bundle directed).1 ∈ g.nodes := by
  obtain ⟨source, target⟩ := wf.ends_mem e member
  rw [Edge.bundle]
  split
  · exact source
  · exact target

/-- When all nodes have been swept, every edge in scope has been met. -/
theorem keptEdges_nodes (policy : ComplementPolicy) (wf : g.WellFormed) :
    keptEdges policy g g.nodes = g.edges.filter fun e => !exchanged policy e :=
  List.filter_congr fun e member => by simp [bundle_fst_mem wf policy.directional member]

theorem sweptCounts_nodes (policy : ComplementPolicy) (wf : g.WellFormed) :
    sweptCounts policy g g.nodes =
      (g.edges.countP (exchanged policy), (missingPairs policy g g.nodes).length) := by
  have removed : (g.edges.countP fun e =>
      exchanged policy e && decide ((e.bundle policy.directional).1 ∈ g.nodes)) =
        g.edges.countP (exchanged policy) :=
    List.countP_congr fun e member => by simp [bundle_fst_mem wf policy.directional member]
  rw [sweptCounts, removed]

/-- The sweep over all nodes. -/
theorem sweepNodes_run (policy : ComplementPolicy) (wf : g.WellFormed) :
    g.nodes.foldlM (sweepNode policy g.nextEdge) (0, 0) g =
      .ok (sweptCounts policy g g.nodes) (sweptGraph policy g g.nodes) := by
  obtain ⟨counts, final, looped, rfl, rfl⟩ := foldlM_invariant
    (fun swept counts state =>
      counts = sweptCounts policy g swept ∧ state = sweptGraph policy g swept)
    ⟨(sweptCounts_nil policy g).symm, (sweptGraph_nil policy g).symm⟩ (by
      rintro swept n rest counts state cut ⟨rfl, rfl⟩
      exact ⟨_, _, sweepNode_sweptGraph wf cut, rfl, rfl⟩)
  exact looped

/-- The complement deletes the edges it exchanges and draws the missing pairs, and reports how many
they were. -/
theorem complement_run (policy : ComplementPolicy) (wf : g.WellFormed) :
    complement policy g =
      .ok (.complement policy (g.edges.countP (exchanged policy))
          (missingPairs policy g g.nodes).length)
        ({ g with edges := g.edges.filter fun e => !exchanged policy e }.withEdges
          (missingPairs policy g g.nodes)) := by
  rw [complement, get_bind_run, bind_of_ok (sweepNodes_run policy wf), sweptCounts_nodes policy wf,
    sweptGraph, keptEdges_nodes policy wf]
  rfl

/-! ## The complement, pair by pair -/

/-- What it is for a graph to be the complement of another: `created` are the new edges. -/
structure Complements (policy : ComplementPolicy) (before after : Graph) (created : List Edge) :
    Prop where
  nodes_same : after.nodes = before.nodes
  /-- Edges that are not exchanged stay as they are and in their order. -/
  edges_eq : after.edges = (before.edges.filter fun e => !exchanged policy e) ++ created
  exchanged_gone : ∀ e ∈ before.edges, exchanged policy e = true → after.hasEdge e.id = false
  created_fresh : ∀ e ∈ created, before.nextEdge ≤ e.id
  created_increasing : created.Pairwise fun e f => e.id < f.id
  /-- Without direction a pair is joined from the earlier node if nothing joined it. -/
  between : policy.directional = false → ∀ u v, u ≠ v →
    created.countP (fun e => e.runs u v) =
      if u < v ∧ u ∈ before.nodes ∧ v ∈ before.nodes ∧ before.adjacent u v = false then 1 else 0
  /-- With direction every ordered pair counts for itself. -/
  along : policy.directional = true → ∀ u v, u ≠ v →
    created.countP (fun e => e.runs u v) =
      if u ∈ before.nodes ∧ v ∈ before.nodes ∧ ¬ ∃ e ∈ before.edges, e.runs u v = true then 1
      else 0
  loops : ∀ u, created.countP (fun e => e.runs u u) =
    if policy.allowSelfLoops = true ∧ u ∈ before.nodes ∧ ¬ ∃ e ∈ before.edges, e.runs u u = true
    then 1 else 0

theorem missingPairs_nodup (wf : g.WellFormed) (policy : ComplementPolicy) :
    (missingPairs policy g g.nodes).Nodup := by
  refine List.nodup_flatMap.mpr ⟨fun n _ => ?_, ?_⟩
  · exact (wf.nodes_nodup.filter _).map fun m k same => congrArg Prod.snd same
  · refine wf.nodes_nodup.imp fun apart pair first second => apart ?_
    obtain ⟨m, _, rfl⟩ := List.mem_map.mp first
    obtain ⟨k, _, same⟩ := List.mem_map.mp second
    exact (congrArg Prod.fst same).symm

theorem mem_missingPairs {u v : NodeId} :
    (u, v) ∈ missingPairs policy g g.nodes ↔
      u ∈ g.nodes ∧ v ∈ g.nodes ∧ missing policy g u v = true := by
  simp only [missingPairs, List.mem_flatMap, List.mem_map, List.mem_filter, Prod.mk.injEq]
  constructor
  · rintro ⟨n, first, m, ⟨second, lacks⟩, rfl, rfl⟩
    exact ⟨first, second, lacks⟩
  · rintro ⟨first, second, lacks⟩
    exact ⟨u, first, v, ⟨second, lacks⟩, rfl, rfl⟩

/-- A pair is joined once if it is missing, and not at all otherwise. -/
theorem countP_created (wf : g.WellFormed) (policy : ComplementPolicy) (u v : NodeId) :
    (Edge.numbered g.nextEdge (missingPairs policy g g.nodes)).countP (fun e => e.runs u v) =
      if u ∈ g.nodes ∧ v ∈ g.nodes ∧ missing policy g u v = true then 1 else 0 := by
  have counted := Edge.countP_numbered g.nextEdge (missingPairs policy g g.nodes)
    fun pair => pair == (u, v)
  have once := (missingPairs_nodup wf policy).count (a := (u, v))
  rw [List.count_eq_countP, ← counted] at once
  simp only [mem_missingPairs] at once
  exact once

/-- Without direction a pair of two nodes is missing if nothing joins it, seen from the earlier
node. -/
theorem missing_between (undirected : policy.directional = false) {u v : NodeId} (apart : u ≠ v) :
    missing policy g u v = true ↔ u < v ∧ g.adjacent u v = false := by
  have order : u ≤ v ↔ u < v := by lia
  simp only [missing, pairInScope, undirected, Bool.and_eq_true, Bool.not_eq_true',
    List.any_eq_false, adjacent, Bool.false_or, decide_eq_true_eq, order, Bool.or_eq_true]
  constructor
  · rintro ⟨⟨less, _⟩, none_between⟩
    refine ⟨less, fun e member => ?_⟩
    rw [← Edge.bundle_undirected_iff (order.mpr less)]
    exact none_between e member
  · rintro ⟨less, none_between⟩
    refine ⟨⟨less, .inr apart⟩, fun e member => ?_⟩
    rw [Edge.bundle_undirected_iff (order.mpr less)]
    exact none_between e member

/-- With direction a pair of two nodes is missing if no edge runs that way. -/
theorem missing_along (directed : policy.directional = true) {u v : NodeId} (apart : u ≠ v) :
    missing policy g u v = true ↔ ¬ ∃ e ∈ g.edges, e.runs u v = true := by
  simp [missing, pairInScope, directed, apart, Edge.bundle_directed, Edge.runs]

/-- A node misses a loop if it has none, provided that loops are allowed. -/
theorem missing_loop {u : NodeId} :
    missing policy g u u = true ↔
      policy.allowSelfLoops = true ∧ ¬ ∃ e ∈ g.edges, e.runs u u = true := by
  have own : ∀ e : Edge, e.bundle policy.directional = (u, u) ↔ e.runs u u = true := by
    intro e
    simp only [Edge.bundle, Edge.runs, Bool.and_eq_true, decide_eq_true_eq]
    split <;> simp [and_comm]
  simp [missing, pairInScope, own]

/-- The complement in terms of pairs. -/
theorem complement_complements (policy : ComplementPolicy) (wf : g.WellFormed) :
    ∃ event after created, complement policy g = .ok event after ∧
      Complements policy g after created := by
  refine ⟨_, _, Edge.numbered g.nextEdge (missingPairs policy g g.nodes),
    complement_run policy wf, ?_⟩
  have fresh : ∀ e ∈ Edge.numbered g.nextEdge (missingPairs policy g g.nodes),
      g.nextEdge ≤ e.id := fun e => Edge.le_id_of_mem_numbered
  have counted := countP_created wf policy
  refine ⟨rfl, rfl, ?_, fresh, ?_, ?_, ?_, ?_⟩
  · intro e member goes
    have below := (wf.edges_below e member).2
    simp only [hasEdge, edges_withEdges, List.any_append, Bool.or_eq_false_iff,
      List.any_eq_false, decide_eq_true_eq]
    constructor
    · intro f left same
      obtain ⟨other, stays⟩ := List.mem_filter.mp left
      rw [Edge.eq_of_id_eq wf.ids_nodup other member same, goes] at stays
      cases stays
    · intro f new same
      have above := fresh f new
      lia
  · have increasing := handlesFrom_increasing g.nextEdge (missingPairs policy g g.nodes).length
    rw [← Edge.map_id_numbered] at increasing
    exact List.pairwise_map.mp increasing
  · intro undirected u v apart
    rw [counted u v]
    simp only [missing_between undirected apart]
    refine if_congr ?_ rfl rfl
    constructor
    · rintro ⟨first, second, less, none_between⟩
      exact ⟨less, first, second, none_between⟩
    · rintro ⟨less, first, second, none_between⟩
      exact ⟨first, second, less, none_between⟩
  · intro directed u v apart
    rw [counted u v]
    simp only [missing_along directed apart]
  · intro u
    rw [counted u u]
    simp only [missing_loop]
    refine if_congr ?_ rfl rfl
    constructor
    · rintro ⟨held, _, allowed, bare⟩
      exact ⟨allowed, held, bare⟩
    · rintro ⟨allowed, held, bare⟩
      exact ⟨held, held, allowed, bare⟩

end Graph

namespace Workspace

/-- In every workspace that commands lead to, and under every policy, the complement of a graph
succeeds and leaves its complement: what is not exchanged stays, what is exchanged goes, and the
new edges are exactly those that were missing. -/
theorem complement_exact {w : Workspace} (reached : w.Reachable) {id : GraphId}
    (held : id < w.graphs.length) (policy : ComplementPolicy) :
    ∃ event after created,
      run (.complement id policy) w = .ok { answer := .done, event := some event } after ∧
      Graph.Complements policy (w.graph id) (after.graph id) created := by
  obtain ⟨event, g, created, ran, complements⟩ :=
    Graph.complement_complements policy (reached.wellFormed id)
  refine ⟨event, w.setGraph id g, created, bind_of_ok (onGraph_run ran), ?_⟩
  rw [graph_setGraph, if_pos ⟨rfl, held⟩]
  exact complements

/-- A graph with a gap in its handles, loops and parallel edges in both directions. -/
def tangle : List Command :=
  [.newGraph, .newNode 0, .newNode 0, .newNode 0, .newNode 0, .deleteNode 0 1, .newEdge 0 0 2,
    .newEdge 0 2 0, .newEdge 0 0 2, .newEdge 0 3 3, .newEdge 0 3 3, .newEdge 0 3 2,
    .deleteEdge 0 1]

theorem complement_exact_tangle :
    Reachable (runAll {} tangle) ∧ 0 < (runAll {} tangle).graphs.length ∧
    ∃ event after created,
      run (.complement 0 ⟨false, true⟩) (runAll {} tangle) =
        .ok { answer := .done, event := some event } after ∧
      Graph.Complements ⟨false, true⟩ ((runAll {} tangle).graph 0) (after.graph 0) created ∧
      (after.graph 0).nodes = [0, 2, 3] ∧
      (after.graph 0).edges = [⟨6, 0, 0⟩, ⟨7, 0, 3⟩, ⟨8, 2, 2⟩] := by
  have reached : Reachable (runAll {} tangle) :=
    reachable_runAll .empty (by simp [tangle, Command.Proper])
  have held : 0 < (runAll {} tangle).graphs.length := by decide
  obtain ⟨event, after, created, ran, complements⟩ :=
    complement_exact reached held ⟨false, true⟩
  obtain rfl : (runAll {} tangle).step (.complement 0 ⟨false, true⟩) = after := after_of_ok ran
  exact ⟨reached, held, event, _, created, ran, complements, by decide +kernel,
    by decide +kernel⟩

end Workspace

end Multigraph
