import Mathlib.Data.Set.Function
import Multigraph.Proofs.Operation.Command
import Multigraph.Proofs.Operation.Duality
import Multigraph.Proofs.Workspace.Refinement

/-!
Inserting a graph embeds it: behind what was there stand its nodes and edges again, in their order
and with consecutive handles, and every edge runs between the copies of its ends (`Graph.Embeds`).
A union in which nothing is identified comes to the same. It makes its nodes and edges one by one
where an insertion makes them in bulk, but all nodes are unset, so the nodes that it makes are all
of them, in their order (`union_bare_run`).
-/
namespace Multigraph

open Multigraph.Action

/-- A table that carries keys over to values, one to one and in their order. -/
structure Table.Carries (t : Table Int Int) (f : Int → Int) (keys values : List Int) : Prop where
  keys_eq : t.keys = keys
  get?_eq : ∀ key ∈ keys, t.get? key = some (f key)
  bijective : Set.BijOn f {key | key ∈ keys} {value | value ∈ values}
  increasing : ∀ key ∈ keys, ∀ other ∈ keys, key < other → f key < f other

/-- Increasing keys are carried over to the handles that they get in a row. -/
theorem Table.carries_handlesFrom {keys : List Int} (increasing : keys.Pairwise (· < ·))
    (first : Int) :
    Carries ⟨keys.zip (handlesFrom first keys.length)⟩ (handleOf first keys) keys
      (handlesFrom first keys.length) where
  keys_eq := Graph.keys_zip_handlesFrom keys first
  get?_eq key member := by rw [get?, lookup_zip_handlesFrom, if_pos member]
  bijective := by
    refine ⟨fun key member => handleOf_mem member,
      fun key member other _ => handleOf_inj member, ?_⟩
    intro value listed
    have handle : value ∈ handlesFrom first keys.length := listed
    rw [← map_handleOf first (increasing.imp Int.ne_of_lt)] at handle
    exact List.mem_map.mp handle
  increasing key member other member' := (handleOf_lt_iff increasing first member member').mpr

namespace Edge

/-- When the edges of a list are drawn again between other ends, each of them has a copy, with the
handle that belongs to its place. -/
theorem mem_numbered_map {edges : List Edge} (distinct : (edges.map Edge.id).Nodup)
    (first : EdgeId) (ends : Edge → NodeId × NodeId) {e : Edge} (member : e ∈ edges) :
    ⟨handleOf first (edges.map Edge.id) e.id, (ends e).1, (ends e).2⟩ ∈
      numbered first (edges.map ends) := by
  induction edges generalizing first with
  | nil => cases member
  | cons d rest ih =>
    obtain ⟨new, others⟩ := List.nodup_cons.mp distinct
    rw [List.map_cons, List.map_cons, numbered, List.mem_cons]
    rcases List.mem_cons.mp member with rfl | later
    · rw [handleOf_cons_self]
      exact .inl rfl
    · have apart : d.id ≠ e.id := fun same => new (same ▸ List.mem_map_of_mem later)
      rw [handleOf_cons_ne first _ apart]
      exact .inr (ih others (first + 1) later)

end Edge

namespace Graph

variable {g h : Graph} {values : Assignment}

/-- What it is for a graph to have had another inserted, whose nodes and edges went where `node` and
`edge` say and are listed so by a renaming. -/
structure Embeds (before other : Graph) (r : Renaming) (node : NodeId → NodeId)
    (edge : EdgeId → EdgeId) (after : Graph) : Prop where
  nodes_eq : after.nodes = before.nodes ++ handlesFrom before.nextNode other.nodeCount
  edges_eq : ∃ appended, after.edges = before.edges ++ appended ∧
    appended.map Edge.id = handlesFrom before.nextEdge other.edgeCount
  nextNode_eq : after.nextNode = before.nextNode + other.nodeCount
  nextEdge_eq : after.nextEdge = before.nextEdge + other.edgeCount
  nodes_carried :
    r.nodes.Carries node other.nodes (handlesFrom before.nextNode other.nodeCount)
  edges_carried :
    r.edges.Carries edge (other.edges.map Edge.id) (handlesFrom before.nextEdge other.edgeCount)
  /-- The copy of an edge runs between the copies of its ends. -/
  ends_carried : ∀ e ∈ other.edges,
    after.edge (edge e.id) = .ok ⟨edge e.id, node e.source, node e.target⟩

/-- Where the nodes and edges of a graph go when another makes copies of them. -/
def renamed (g h : Graph) : Renaming where
  nodes := ⟨h.nodes.zip (handlesFrom g.nextNode h.nodes.length)⟩
  edges := ⟨(h.edges.map Edge.id).zip (handlesFrom g.nextEdge h.edges.length)⟩

theorem embeds_withCopy (wf : g.WellFormed) (other : h.WellFormed) :
    Embeds g h (g.renamed h) (handleOf g.nextNode h.nodes)
      (handleOf g.nextEdge (h.edges.map Edge.id)) (g.withCopy h) where
  nodes_eq := rfl
  edges_eq := by
    refine ⟨_, rfl, ?_⟩
    rw [Edge.map_id_numbered, copiedEnds, List.length_map]
    rfl
  nextNode_eq := rfl
  nextEdge_eq := by
    rw [withCopy, nextEdge_withEdges, copiedEnds, List.length_map]
    rfl
  nodes_carried := Table.carries_handlesFrom other.nodes_increasing g.nextNode
  edges_carried := by
    have carried := Table.carries_handlesFrom (List.pairwise_map.mpr other.edges_increasing)
      g.nextEdge
    rw [List.length_map] at carried
    exact carried
  ends_carried e member := by
    have listed := Edge.mem_numbered_map other.ids_nodup g.nextEdge
      (Edge.endsUnder (handleOf g.nextNode h.nodes)) member
    exact edge_of_mem (withCopy_wellFormed wf other).ids_nodup (List.mem_append_right _ listed)

/-! ## Unions in which nothing is identified -/

theorem unsetNodes_bare (bare : ∀ node ∈ h.nodes, values.get? node = none) :
    values.unsetNodes h = h.nodes :=
  List.filter_eq_self.mpr fun node held => by rw [bare node held]; rfl

/-- Where nothing is identified all nodes get new handles. -/
theorem unionImages_bare (bare : ∀ node ∈ h.nodes, values.get? node = none) (counter : NodeId) :
    values.unionImages counter h = ⟨h.nodes.zip (handlesFrom counter h.nodes.length)⟩ := by
  have none_identified : values.identifications h.nodes = [] := by
    apply List.filterMap_eq_nil_iff.mpr
    intro node held
    rw [Assignment.target?, bare node held]
    rfl
  rw [Assignment.unionImages, none_identified, unsetNodes_bare bare, List.nil_append]

/-- A graph united with another in which nothing is identified has a copy of it. -/
theorem united_bare (other : h.WellFormed) (bare : ∀ node ∈ h.nodes, values.get? node = none) :
    united g h values = g.withCopy h := by
  have copied : h.edges.map (Edge.endsUnder (values.unionPlace g.nextNode h)) =
      h.copiedEnds g.nextNode := by
    apply List.map_congr_left
    intro e member
    obtain ⟨source, target⟩ := other.ends_mem e member
    rw [Edge.endsUnder, Edge.endsUnder, Assignment.unionPlace, unsetNodes_bare bare,
      placeFrom_bare bare _ source, placeFrom_bare bare _ target]
  rw [united, withCopy, unsetNodes_bare bare, copied]

/-- A union in which nothing is identified and no parallel edge removed makes the copy that an
insertion makes. -/
theorem union_bare_run (wf : g.WellFormed) (other : h.WellFormed)
    (bare : ∀ node ∈ h.nodes, values.get? node = none) {policy : UnionPolicy}
    (kept : policy.parallelFree = false) :
    ∃ event, union h values policy g = .ok ((g.renamed h).nodes, event) (g.withCopy h) := by
  have ran := union_run wf other (pointsInto_bare bare) policy
  have all : thinned policy (united g h values) = g.withCopy h := by
    rw [united_bare other bare, thinned, if_neg (by simp [kept])]
  rw [all, unionImages_bare bare] at ran
  exact ⟨_, ran⟩

end Graph

namespace Workspace

variable {w : Workspace} {first second : GraphId} {m : MapId}

/-- When images are recorded in a correspondence without values, its items are the images. -/
theorem items_recorded {g : Graph} {images : Table NodeId NodeId}
    (binding : w.isBoundTo m second = true) (distinct : images.keys.Nodup)
    (bare : ∀ node ∈ ((w.recorded first g m images).graph second).nodes,
      (w.map m).values.get? node = none) :
    (w.recorded first g m images).items m =
      .ok (((w.recorded first g m images).graph second).nodes.map fun node =>
        (node, (images.get? node).map .int)) := by
  have there : (w.recorded first g m images).map m =
      { (w.map m) with values := (w.map m).values.recordImages images } :=
    map_setMap (present_of_isBoundTo binding) _
  have bound : ((w.recorded first g m images).map m).graph? = some second := by
    rw [there]
    exact of_decide_eq_true binding
  rw [items, viewMap, boundGraph_of_bound bound, there]
  refine congrArg Except.ok (List.map_congr_left fun node held => ?_)
  rw [Assignment.get?_recordImages _ distinct, bare node held]
  cases images.get? node <;> rfl

/-- A command that answers a correspondence, having changed one graph only. -/
def Fills (w : Workspace) (command : Command) (m : MapId) (first : GraphId) (g : Graph)
    (items : List (NodeId × Option Value)) : Prop :=
  ∃ event left, run command w = .ok { answer := .map m, event := event } left ∧
    left.graph first = g ∧ (∀ other, other ≠ first → left.graph other = w.graph other) ∧
    left.items m = .ok items

/-- The items of a correspondence that holds the copies of the nodes of the second graph. -/
def copiedItems (w : Workspace) (second : GraphId) (r : Graph.Renaming) :
    List (NodeId × Option Value) :=
  (w.graph second).nodes.map fun node => (node, (r.nodes.get? node).map .int)

/-- A command that records the copies in a correspondence without values fills it with them. -/
theorem fills_recorded {v : Workspace} {command : Command} {g : Graph} {r : Graph.Renaming}
    {event : Option Event} (same : v.graphs = w.graphs) (held : first < w.graphs.length)
    (binding : v.isBoundTo m second = true) (distinct : r.nodes.keys.Nodup)
    (bare : ∀ node ∈ ((w.setGraph first g).graph second).nodes,
      (v.map m).values.get? node = none)
    (ran : run command w =
      .ok { answer := .map m, event := event } (v.recorded first g m r.nodes)) :
    w.Fills command m first ((w.setGraph first g).graph first)
      ((w.setGraph first g).copiedItems second r) := by
  have graphs : (v.recorded first g m r.nodes).graphs = (w.setGraph first g).graphs :=
    congrArg (List.set · first g) same
  have alike := graph_congr graphs
  refine ⟨event, _, ran, alike first, fun other apart => ?_, ?_⟩
  · rw [alike, (setGraph_replaced held g).others other apart]
  · rw [items_recorded binding distinct (by rw [alike]; exact bare), alike, copiedItems]

/-- A new correspondence has no values, so a command that records the copies in one fills it. -/
theorem fills_new {command : Command} {g : Graph} {r : Graph.Renaming} {event : Option Event}
    (held : first < w.graphs.length) (distinct : r.nodes.keys.Nodup)
    (ran : run command w = .ok { answer := .map w.maps.length, event := event }
      ((w.withMap second).recorded first g w.maps.length r.nodes)) :
    w.Fills command w.maps.length first ((w.setGraph first g).graph first)
      ((w.setGraph first g).copiedItems second r) := by
  have bare : ∀ node ∈ ((w.setGraph first g).graph second).nodes,
      ((w.withMap second).map w.maps.length).values.get? node = none := by
    intro node _
    rw [map_withMap]
    rfl
  have same : (w.withMap second).graphs = w.graphs := rfl
  exact fills_recorded same held (isBoundTo_withMap w second) distinct bare ran

/-- A correspondence that sets no node of a graph sets none of its copies either, which are among
the nodes if the graph has been inserted into itself. -/
theorem unset_of_inserted (reached : w.Reachable) (held : first < w.graphs.length)
    (binding : w.isBoundTo m second = true)
    (bare : ∀ node ∈ (w.graph second).nodes, (w.map m).values.get? node = none) {node : NodeId}
    (present : node ∈ ((w.setGraph first
      ((w.graph first).withCopy (w.graph second))).graph second).nodes) :
    (w.map m).values.get? node = none := by
  have replaced := setGraph_replaced held ((w.graph first).withCopy (w.graph second))
  by_cases former : node ∈ (w.graph second).nodes
  · exact bare node former
  · have same : second = first := by
      by_contra apart
      rw [replaced.others second apart] at present
      exact former present
    subst same
    -- A node that was not there before is a copy, and no values are kept for handles to come.
    have copies := (Graph.embeds_withCopy (reached.wellFormed second)
      (reached.wellFormed second)).nodes_eq
    rw [replaced.graph_eq, copies] at present
    have fresh := (mem_handlesFrom.mp ((List.mem_append.mp present).resolve_left former)).1
    exact reached.unset_of_nextNode_le (of_decide_eq_true binding) fresh

/-- In every workspace that commands lead to, inserting a graph into a graph, which may be the same,
succeeds and embeds it as it was before. The disjoint union of the two, their union without a
correspondence, and their union under one that is bound to the second and sets none of its nodes,
leave the same first graph, if no parallel edges are removed, and answer correspondences with the
same items: for every node of the second graph its copy. -/
theorem insertion_embeds (reached : w.Reachable) (held : first < w.graphs.length)
    (second : GraphId) :
    ∃ r node edge after,
      run (.insert first second) w = .ok { answer := .renaming r } after ∧
      w.Replaced first (after.graph first) after ∧
      Graph.Embeds (w.graph first) (w.graph second) r node edge (after.graph first) ∧
      w.Fills (.disjointUnion first second) w.maps.length first (after.graph first)
        (after.copiedItems second r) ∧
      ∀ policy : UnionPolicy, policy.parallelFree = false →
        w.Fills (.union first second none policy) w.maps.length first (after.graph first)
          (after.copiedItems second r) ∧
        ∀ m, w.isBoundTo m second = true →
          (∀ node ∈ (w.graph second).nodes, w.readKey m node = .ok none) →
          w.Fills (.union first second (some m) policy) m first (after.graph first)
            (after.copiedItems second r) := by
  have wf := reached.wellFormed first
  have other := reached.wellFormed second
  obtain ⟨node, edge, embeds⟩ : ∃ node edge, Graph.Embeds (w.graph first) (w.graph second)
      ((w.graph first).renamed (w.graph second)) node edge
      ((w.graph first).withCopy (w.graph second)) := ⟨_, _, Graph.embeds_withCopy wf other⟩
  have inserted : onGraph first (Graph.insert (w.graph second)) w =
      .ok ((w.graph first).renamed (w.graph second))
        (w.setGraph first ((w.graph first).withCopy (w.graph second))) :=
    onGraph_run (Graph.insert_run other)
  have replaced := setGraph_replaced held ((w.graph first).withCopy (w.graph second))
  have distinct : ((w.graph first).renamed (w.graph second)).nodes.keys.Nodup := by
    rw [embeds.nodes_carried.keys_eq]
    exact other.nodes_nodup
  refine ⟨_, node, edge, _, (get_bind_run _ w).trans (bind_of_ok inserted), ?_, ?_, ?_,
    fun policy kept => ⟨?_, fun m binding unset => ?_⟩⟩
  · rw [replaced.graph_eq]
    exact replaced
  · rw [replaced.graph_eq]
    exact embeds
  · exact fills_new held distinct (disjointUnion_completes (Graph.disjointUnion_run other))
  · have bare : ∀ node ∈ (w.graph second).nodes, (∅ : Assignment).get? node = none :=
      fun _ _ => rfl
    obtain ⟨event, ran⟩ := Graph.union_bare_run wf other bare kept
    exact fills_new held distinct (union_new_completes ran)
  · have bare : ∀ node ∈ (w.graph second).nodes, (w.map m).values.get? node = none := by
      intro node former
      have reads := unset node former
      rw [readKey_run binding former] at reads
      exact Except.ok.inj reads
    obtain ⟨event, ran⟩ := Graph.union_bare_run wf other bare kept
    exact fills_recorded rfl held binding distinct
      (fun node present => unset_of_inserted reached held binding bare present)
      (union_completes binding ran)

/-- A graph with gaps in its handles and a loop, and a correspondence in which only a node that is
gone has a value. -/
def regrown : List Command :=
  [.newGraph, .newNode 0, .newNode 0, .newNode 0, .newMap (some 0), .write 0 0 (some (.int 7)),
    .deleteNode 0 0, .newEdge 0 1 2, .newEdge 0 2 2, .newEdge 0 2 1, .deleteEdge 0 0]

theorem insertion_embeds_regrown :
    Reachable (runAll {} regrown) ∧ 0 < (runAll {} regrown).graphs.length ∧
    (runAll {} regrown).isBoundTo 0 0 = true ∧
    (∀ node ∈ ((runAll {} regrown).graph 0).nodes, (runAll {} regrown).readKey 0 node = .ok none) ∧
    ∃ r, ∃ node : NodeId → NodeId, ∃ edge : EdgeId → EdgeId, ∃ after left event,
      run (.insert 0 0) (runAll {} regrown) = .ok { answer := .renaming r } after ∧
      (after.graph 0).nodes = [1, 2, 3, 4] ∧ r.edges.keys = [1, 2] ∧
      (after.graph 0).edge (edge 2) = .ok ⟨edge 2, node 2, node 1⟩ ∧ node 1 < node 2 ∧
      run (.union 0 0 (some 0) {}) (runAll {} regrown) =
        .ok { answer := .map 0, event := event } left ∧
      left.graph 0 = after.graph 0 ∧ left.items 0 = .ok (after.copiedItems 0 r) := by
  have reached : Reachable (runAll {} regrown) :=
    reachable_runAll .empty (by simp [regrown, Command.Proper])
  have held : 0 < (runAll {} regrown).graphs.length := by decide +kernel
  have bound : (runAll {} regrown).isBoundTo 0 0 = true := by decide +kernel
  have unset : ∀ node ∈ ((runAll {} regrown).graph 0).nodes,
      (runAll {} regrown).readKey 0 node = .ok none := by decide +kernel
  have nodes : ((runAll {} regrown).graph 0).nodes = [1, 2] := by decide +kernel
  have edges : ((runAll {} regrown).graph 0).edges = [⟨1, 2, 2⟩, ⟨2, 2, 1⟩] := by decide +kernel
  have counter : ((runAll {} regrown).graph 0).nextNode = 3 := by decide +kernel
  obtain ⟨r, node, edge, after, inserted, _, embeds, _, unions⟩ := insertion_embeds reached held 0
  obtain ⟨event, left, ran, graph, _, items⟩ := (unions {} rfl).2 0 bound unset
  have all := embeds.nodes_eq
  have keys := embeds.edges_carried.keys_eq
  have increasing := embeds.nodes_carried.increasing 1 (by simp [nodes]) 2 (by simp [nodes])
  rw [Graph.nodeCount, nodes, counter] at all
  rw [edges] at keys
  exact ⟨reached, held, bound, unset, r, node, edge, after, left, event, inserted, all, keys,
    embeds.ends_carried ⟨2, 2, 1⟩ (by simp [edges]),
    increasing (by decide), ran, graph, items⟩

end Workspace

end Multigraph
