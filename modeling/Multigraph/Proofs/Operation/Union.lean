import Multigraph.Proofs.Correspondence
import Multigraph.Proofs.Graph.Insert
import Multigraph.Proofs.Graph.Parallel
import Multigraph.Proofs.Workspace.Reachable

/-!
What the union of two graphs is. A node of the second graph goes to the node it is identified with,
and the nodes that are not identified get consecutive handles in their order (`get?_unionImages`).
Then the edges of the second graph are drawn, in their order, between the places of their ends.
The graph so far is `united first second values`; if the policy asks for it, of each bundle of
parallel edges only the first is left (`union_run`). The edges of the first graph come first, so
none of them is lost to an edge of the second (`union_exact`).
-/
namespace Multigraph

open Multigraph.Action

/-! ## Where the nodes go -/

namespace Assignment

/-- Where the nodes of the second graph go when those that are not identified get handles from a
counter on. -/
def unionPlace (values : Assignment) (counter : NodeId) (second : Graph) : NodeId → NodeId :=
  values.placeFrom counter (values.unsetNodes second)

/-- The nodes of the second graph with their places, the identified ones first. -/
def unionImages (values : Assignment) (counter : NodeId) (second : Graph) : Table NodeId NodeId :=
  ⟨values.identifications second.nodes ++ (values.unsetNodes second).zip
    (handlesFrom counter (values.unsetNodes second).length)⟩

variable {values : Assignment} {first second : Graph}

theorem keys_unionImages (values : Assignment) (counter : NodeId) (second : Graph) :
    (values.unionImages counter second).keys =
      (values.identifications second.nodes).map Prod.fst ++ values.unsetNodes second := by
  rw [Table.keys, unionImages, List.map_append, Graph.keys_zip_handlesFrom]

theorem keys_unionImages_subset (values : Assignment) (counter : NodeId) (second : Graph) :
    ∀ key ∈ (values.unionImages counter second).keys, key ∈ second.nodes := by
  intro key listed
  rw [keys_unionImages] at listed
  rcases List.mem_append.mp listed with identified | unset
  · exact (keys_identifications_sublist values second.nodes).subset identified
  · exact (List.mem_filter.mp unset).1

theorem keys_unionImages_nodup (values : Assignment) (other : second.WellFormed)
    (counter : NodeId) :
    (values.unionImages counter second).keys.Nodup := by
  rw [keys_unionImages]
  refine List.nodup_append.mpr ⟨?_, other.nodes_nodup.filter _, ?_⟩
  · exact other.nodes_nodup.sublist (keys_identifications_sublist values second.nodes)
  · rintro node identified _ unset rfl
    have set := (mem_keys_identifications.mp identified).2
    simp [target?_of_unset unset] at set

/-- Every node of the second graph is found at its place. -/
theorem get?_unionImages (valid : values.PointsInto second first) (counter : NodeId)
    {node : NodeId} (held : node ∈ second.nodes) :
    (values.unionImages counter second).get? node =
      some (values.unionPlace counter second node) := by
  rw [Table.get?, unionImages, Table.lookup_append, lookup_identifications, if_pos held,
    lookup_zip_handlesFrom, unionPlace, placeFrom]
  cases set : values.target? node with
  | some image => rfl
  | none =>
    rw [if_pos (valid.unset_of_target? held set)]
    rfl

/-- The nodes that are not identified have consecutive handles. -/
theorem map_unionPlace (values : Assignment) (other : second.WellFormed) (counter : NodeId) :
    (values.unsetNodes second).map (values.unionPlace counter second) =
      handlesFrom counter (values.unsetNodes second).length := by
  have distinct : (values.unsetNodes second).Nodup := other.nodes_nodup.filter _
  rw [← map_handleOf counter distinct]
  refine List.map_congr_left fun node unset => ?_
  rw [unionPlace, placeFrom, target?_of_unset unset]
  rfl

/-- A node that is identified goes where its value says. -/
theorem unionPlace_of_set (valid : values.PointsInto second first) (counter : NodeId)
    {node : NodeId} (held : node ∈ second.nodes) {value : Value}
    (set : values.get? node = some value) :
    value = .int (values.unionPlace counter second node) := by
  obtain ⟨image, _, rfl⟩ := valid node held value set
  rw [unionPlace, placeFrom, target?, set]
  rfl

end Assignment

namespace Graph

variable {g first second : Graph} {values : Assignment}

/-- Nodes without an image get consecutive handles. -/
theorem addImages_run (nodes : List NodeId) (images : Table NodeId NodeId) :
    nodes.foldlM addImage images g =
      .ok (images.insertAll (nodes.zip (handlesFrom g.nextNode nodes.length)))
        (g.withNodes nodes.length) := by
  induction nodes generalizing g images with
  | nil =>
    rw [List.length_nil, withNodes_zero]
    rfl
  | cons node rest ih =>
    have first : addImage images node g = .ok (images.insert node g.nextNode) g.withNode := rfl
    rw [foldlM_cons_of_ok first, ih, List.length_cons, withNodes_succ, handlesFrom,
      List.zip_cons_cons]
    rfl

/-- The graph when the second one has been drawn into it, before parallel edges are removed. -/
def united (first second : Graph) (values : Assignment) : Graph :=
  (first.withNodes (values.unsetNodes second).length).withEdges
    (second.edges.map (Edge.endsUnder (values.unionPlace first.nextNode second)))

/-- The graph without the parallel edges that a policy does not allow. -/
def thinned (policy : UnionPolicy) (g : Graph) : Graph :=
  if policy.parallelFree then { g with edges := firsts policy.directed [] g.edges } else g

theorem applyPolicy_run (policy : UnionPolicy) (distinct : (g.edges.map Edge.id).Nodup) :
    applyPolicy policy g =
      .ok (if policy.parallelFree then g.parallelCount policy.directed else 0)
        (thinned policy g) := by
  unfold applyPolicy thinned
  split
  · exact removeParallel_run distinct policy.directed
  · rfl

/-- Every place is a node once the new nodes are there. -/
theorem unionPlace_mem (valid : values.PointsInto second first) {node : NodeId}
    (held : node ∈ second.nodes) :
    values.unionPlace first.nextNode second node ∈
      (first.withNodes (values.unsetNodes second).length).nodes := by
  rw [Assignment.unionPlace, Assignment.placeFrom]
  cases set : values.target? node with
  | some image => exact List.mem_append_left _ (valid.target_mem held set)
  | none => exact handleOf_mem_withNodes first (valid.unset_of_target? held set)

theorem united_wellFormed (wf : first.WellFormed) (other : second.WellFormed)
    (valid : values.PointsInto second first) : (united first second values).WellFormed := by
  have drawn : (first.withNodes (values.unsetNodes second).length).Becomes
      (united first second values) := by
    refine becomes_withEdges fun pair listed => ?_
    obtain ⟨e, member, rfl⟩ := List.mem_map.mp listed
    obtain ⟨source, target⟩ := other.ends_mem e member
    exact ⟨unionPlace_mem valid source, unionPlace_mem valid target⟩
  exact ((becomes_withNodes first _).trans drawn).wellFormed wf

/-- The union draws the second graph into the first and then removes what the policy does not
allow. -/
theorem union_run (wf : first.WellFormed) (other : second.WellFormed)
    (valid : values.PointsInto second first) (policy : UnionPolicy) :
    union second values policy first =
      .ok (values.unionImages first.nextNode second,
          .union (values.identifications second.nodes).length
            (if policy.parallelFree then (united first second values).parallelCount policy.directed
              else 0)
            (thinned policy (united first second values)).nodes.length
            (thinned policy (united first second values)).edges.length)
        (thinned policy (united first second values)) := by
  have resolved := Assignment.resolve_run valid other.nodes_nodup .identifiedOutside
  have added := addImages_run (g := first) (values.unsetNodes second)
    ⟨values.identifications second.nodes⟩
  have entered : (⟨values.identifications second.nodes⟩ : Table NodeId NodeId).insertAll
      ((values.unsetNodes second).zip
        (handlesFrom first.nextNode (values.unsetNodes second).length)) =
      values.unionImages first.nextNode second := by
    have distinct := Assignment.keys_unionImages_nodup values other first.nextNode
    rw [Table.keys, Assignment.unionImages, List.map_append] at distinct
    exact congrArg Table.mk (Table.entries_insertAll distinct)
  rw [entered] at added
  have drawn : Draws (first.withNodes (values.unsetNodes second).length).nodes
      (second.edges.forM (drawEdge (values.unionImages first.nextNode second))) ()
      (second.edges.flatMap fun e =>
        [Edge.endsUnder (values.unionPlace first.nextNode second) e]) := by
    refine draws_forM fun e member => ?_
    obtain ⟨source, target⟩ := other.ends_mem e member
    have fetched : ∀ {node}, node ∈ second.nodes →
        (values.unionImages first.nextNode second).fetch node =
          .ok (values.unionPlace first.nextNode second node) := by
      intro node held
      rw [Table.fetch, Assignment.get?_unionImages valid _ held]
    exact draws_checked (fetched source) (draws_checked (fetched target)
      (draws_newEdge (unionPlace_mem valid source) (unionPlace_mem valid target)))
  rw [← List.map_eq_flatMap] at drawn
  have removed := applyPolicy_run policy (united_wellFormed wf other valid).ids_nodup
  rw [union, get_bind_run]
  refine (bind_of_ok (ofExcept_of_ok resolved first)).trans ((bind_of_ok added).trans ?_)
  refine (bind_of_ok (drawn _ rfl)).trans ((bind_of_ok removed).trans ?_)
  exact get_bind_run _ _

/-! ## The union, edge by edge -/

/-- The edges of the first graph and, behind them, those of the second drawn between the places of
their ends. -/
def unionEdges (first second : Graph) (place : NodeId → NodeId) : List Edge :=
  first.edges ++ Edge.numbered first.nextEdge (second.edges.map (Edge.endsUnder place))

/-- What it is for a graph to be the union of two others when the nodes of the second are where
`place` sends them. -/
structure Unites (policy : UnionPolicy) (first second : Graph) (values : Assignment)
    (place : NodeId → NodeId) (after : Graph) : Prop where
  agrees : ∀ node ∈ second.nodes, ∀ value, values.get? node = some value →
    value = .int (place node)
  fresh : (values.unsetNodes second).map place =
    handlesFrom first.nextNode (values.unsetNodes second).length
  nodes_eq : after.nodes = first.nodes ++ (values.unsetNodes second).map place
  edges_eq : policy.parallelFree = false → after.edges = unionEdges first second place
  edges_sublist : after.edges.Sublist (unionEdges first second place)
  /-- An edge is kept unless it is parallel to an earlier one. -/
  kept_iff : policy.parallelFree = true → ∀ before e rest,
    unionEdges first second place = before ++ e :: rest →
      (e ∈ after.edges ↔ ∀ d ∈ before, ¬ d.Parallel policy.directed e)
  /-- An edge of the first graph is lost to an earlier edge of the first graph only. -/
  displaced : ∀ before e rest, first.edges = before ++ e :: rest → e ∉ after.edges →
    ∃ d ∈ before, d.Parallel policy.directed e

theorem nodes_thinned (policy : UnionPolicy) (g : Graph) : (thinned policy g).nodes = g.nodes := by
  unfold thinned
  split <;> rfl

theorem edges_thinned_sublist (policy : UnionPolicy) (g : Graph) :
    (thinned policy g).edges.Sublist g.edges := by
  unfold thinned
  split
  · exact firsts_sublist policy.directed [] g.edges
  · exact .refl _

/-- Whatever the policy, adjacent nodes stay adjacent. -/
theorem adjacent_thinned (policy : UnionPolicy) (g : Graph) (u v : NodeId) :
    (thinned policy g).adjacent u v = g.adjacent u v := by
  unfold thinned
  split
  · exact adjacent_firsts policy.directed g u v
  · rfl

/-- An edge is thinned out when the policy asks for it and an earlier edge is parallel. -/
theorem mem_thinned_iff {policy : UnionPolicy} (distinct : (g.edges.map Edge.id).Nodup)
    {before rest : List Edge} {e : Edge} (cut : g.edges = before ++ e :: rest) :
    e ∈ (thinned policy g).edges ↔
      (policy.parallelFree = true → ∀ d ∈ before, ¬ d.Parallel policy.directed e) := by
  unfold thinned
  split
  · rename_i wanted
    have first := mem_firsts_iff policy.directed [] (cut ▸ distinct)
    rw [cut, first]
    simp [wanted]
  · rename_i unwanted
    simp [cut, unwanted]

theorem union_unites (wf : first.WellFormed) (other : second.WellFormed)
    (valid : values.PointsInto second first) (policy : UnionPolicy) :
    Unites policy first second values (values.unionPlace first.nextNode second)
      (thinned policy (united first second values)) := by
  have distinct := (united_wellFormed wf other valid).ids_nodup
  have edges : (united first second values).edges =
      unionEdges first second (values.unionPlace first.nextNode second) := rfl
  have fresh := Assignment.map_unionPlace values other first.nextNode
  refine ⟨fun node held value => Assignment.unionPlace_of_set valid _ held, fresh,
    ?_, ?_, ?_, ?_, ?_⟩
  · rw [nodes_thinned, fresh]
    rfl
  · intro unwanted
    rw [thinned, if_neg (by simp [unwanted]), edges]
  · exact edges_thinned_sublist policy _
  · intro wanted before e rest cut
    rw [mem_thinned_iff distinct cut]
    exact forall_prop_of_true wanted
  · intro before e rest cut lost
    have early : (united first second values).edges = before ++ e :: (rest ++ Edge.numbered
        first.nextEdge (second.edges.map
          (Edge.endsUnder (values.unionPlace first.nextNode second)))) := by
      rw [edges, unionEdges, cut, List.append_assoc, List.cons_append]
    rw [mem_thinned_iff distinct early] at lost
    push Not at lost
    exact lost.2

end Graph

namespace Workspace

variable {w : Workspace} {first second : GraphId} {map : Option MapId}

/-- The identifications that a union starts from: those of the correspondence, if one is given. -/
def presetOf (w : Workspace) : Option MapId → Assignment
  | some m => (w.map m).values
  | none => ∅

theorem presetOf_pointsInto {domain codomain : Graph}
    (valid : ∀ m, map = some m → (w.map m).values.PointsInto domain codomain) :
    (w.presetOf map).PointsInto domain codomain := by
  cases map with
  | some m => exact valid m rfl
  | none =>
    intro node _ value set
    cases set

/-- The correspondence that a union fills is bound to the second graph and holds the given
identifications; no graph has changed when it is there. -/
theorem unionMap_run (bound : ∀ m, map = some m → w.isBoundTo m second = true) :
    ∃ id v, unionMap second map w = .ok id v ∧ v.graphs = w.graphs ∧ (∀ m, map = some m → id = m) ∧
      v.isBoundTo id second = true ∧ (v.map id).values = w.presetOf map := by
  cases map with
  | some m =>
    refine ⟨m, w, bind_of_ok (requireBinding_run (bound m rfl) _), rfl, ?_, bound m rfl, rfl⟩
    intro other same
    exact Option.some.inj same
  | none =>
    have last : ({ w with maps := w.maps ++ [{ graph? := some second }] } : Workspace).map
        w.maps.length = { graph? := some second } := by
      simp [Workspace.map]
    refine ⟨w.maps.length, { w with maps := w.maps ++ [{ graph? := some second }] }, rfl, rfl,
      ?_, ?_, ?_⟩
    · intro other given
      cases given
    · rw [isBoundTo, last]
      exact decide_eq_true rfl
    · rw [last]
      rfl

/-- In every workspace that commands lead to, the union of two graphs under a correspondence whose
values are nodes of the first, or under none, succeeds whatever the policy. It sends every node of
the second graph to the node it is identified with, or else to a new node; it appends the edges of
the second graph between the places of their ends and, if the policy asks for it, keeps the first
of the edges that are parallel; and it leaves the second graph alone. -/
theorem union_exact (reached : w.Reachable) (apart : first ≠ second)
    (held : first < w.graphs.length) (bound : ∀ m, map = some m → w.isBoundTo m second = true)
    (valid : ∀ m, map = some m → (w.map m).values.PointsInto (w.graph second) (w.graph first))
    (policy : UnionPolicy) :
    ∃ id event after place,
      run (.union first second map policy) w =
        .ok { answer := .map id, event := some event } after ∧
      (∀ m, map = some m → id = m) ∧
      (∀ node ∈ (w.graph second).nodes, after.readKey id node = .ok (some (.int (place node)))) ∧
      Graph.Unites policy (w.graph first) (w.graph second) (w.presetOf map) place
        (after.graph first) ∧
      after.graph second = w.graph second := by
  have wf := reached.wellFormed first
  have other := reached.wellFormed second
  have points := presetOf_pointsInto valid
  obtain ⟨id, v, mapped, same, given, binding, preset⟩ := unionMap_run bound
  have graphs : ∀ object, v.graph object = w.graph object := fun object => by
    simp only [graph, same]
  obtain ⟨g, made⟩ : ∃ g, g =
      Graph.thinned policy (Graph.united (w.graph first) (w.graph second) (w.presetOf map)) :=
    ⟨_, rfl⟩
  obtain ⟨images, listed⟩ : ∃ images, images =
      (w.presetOf map).unionImages (w.graph first).nextNode (w.graph second) := ⟨_, rfl⟩
  obtain ⟨event, ran⟩ : ∃ event, Graph.union (v.graph second) (v.map id).values policy
      (v.graph first) = .ok (images, event) g := by
    rw [graphs first, graphs second, preset, listed, made]
    exact ⟨_, Graph.union_run wf other points policy⟩
  have first_after : (v.recorded first g id images).graph first = g :=
    (graph_recorded v first first g id images).trans (if_pos ⟨rfl, same ▸ held⟩)
  have second_after : (v.recorded first g id images).graph second = w.graph second :=
    (graph_recorded v first second g id images).trans
      ((if_neg fun both => apart both.1).trans (graphs second))
  refine ⟨id, event, v.recorded first g id images,
    (w.presetOf map).unionPlace (w.graph first).nextNode (w.graph second), ?_, given, ?_, ?_,
    second_after⟩
  · refine (bind_of_ok mapped).trans ((get_bind_run _ v).trans ?_)
    exact (bind_of_ok (onGraph_run ran)).trans (bind_of_ok (recordImages_run _ id images))
  · intro node inside
    refine readKey_recorded binding ?_ ?_ ?_
    · rw [listed]
      exact Assignment.keys_unionImages_nodup _ other _
    · rw [listed]
      exact Assignment.get?_unionImages points _ inside
    · rw [second_after]
      exact inside
  · rw [first_after, made]
    exact Graph.union_unites wf other points policy

/-- Two graphs with gaps in their handles, loops and edges in both directions, and a correspondence
that identifies two nodes of the second with one node of the first and a third with another. -/
def overlaid : List Command :=
  [.newGraph, .newNode 0, .newNode 0, .newNode 0, .deleteNode 0 1, .newEdge 0 0 2, .newEdge 0 0 2,
    .newEdge 0 2 0, .newGraph, .newNode 1, .newNode 1, .newNode 1, .newNode 1, .newNode 1,
    .deleteNode 1 0, .newEdge 1 1 3, .newEdge 1 1 2, .newEdge 1 3 4, .newEdge 1 4 3,
    .newMap (some 1), .write 0 1 (some (.int 2)), .write 0 2 (some (.int 2)),
    .write 0 3 (some (.int 0))]

theorem union_exact_overlaid :
    Reachable (runAll {} overlaid) ∧ 0 ≠ 1 ∧ 0 < (runAll {} overlaid).graphs.length ∧
    (∀ m, some 0 = some m → (runAll {} overlaid).isBoundTo m 1 = true) ∧
    (∀ m, some 0 = some m → ((runAll {} overlaid).map m).values.PointsInto
      ((runAll {} overlaid).graph 1) ((runAll {} overlaid).graph 0)) ∧
    ∃ id event after place,
      run (.union 0 1 (some 0) ⟨true, false⟩) (runAll {} overlaid) =
        .ok { answer := .map id, event := some event } after ∧
      id = 0 ∧ after.readKey 0 4 = .ok (some (.int (place 4))) ∧ place 4 = 3 ∧
      (after.graph 0).nodes = [0, 2, 3] ∧
      Graph.Unites ⟨true, false⟩ ((runAll {} overlaid).graph 0) ((runAll {} overlaid).graph 1)
        ((runAll {} overlaid).presetOf (some 0)) place (after.graph 0) ∧
      after.graph 1 = (runAll {} overlaid).graph 1 := by
  have reached : Reachable (runAll {} overlaid) :=
    reachable_runAll .empty (by simp [overlaid, Command.Proper])
  have apart : 0 ≠ 1 := by decide
  have held : 0 < (runAll {} overlaid).graphs.length := by decide +kernel
  have bound : ∀ m, some 0 = some m → (runAll {} overlaid).isBoundTo m 1 = true := by
    intro m given
    cases given
    decide +kernel
  have valid : ∀ m, some 0 = some m → ((runAll {} overlaid).map m).values.PointsInto
      ((runAll {} overlaid).graph 1) ((runAll {} overlaid).graph 0) := by
    intro m given
    cases given
    decide +kernel
  obtain ⟨id, event, after, place, ran, given, places, unites, second_after⟩ :=
    union_exact reached apart held bound valid ⟨true, false⟩
  obtain rfl := given 0 rfl
  have unset : ((runAll {} overlaid).presetOf (some 0)).unsetNodes ((runAll {} overlaid).graph 1) =
      [4] := by decide +kernel
  have counter : ((runAll {} overlaid).graph 0).nextNode = 3 := by decide +kernel
  have old : ((runAll {} overlaid).graph 0).nodes = [0, 2] := by decide +kernel
  have fresh := unites.fresh
  rw [unset, counter] at fresh
  have nodes := unites.nodes_eq
  rw [unset, fresh, old] at nodes
  exact ⟨reached, apart, held, bound, valid, _, event, after, place, ran, rfl,
    places 4 (by decide +kernel), (List.cons.inj fresh).1, nodes, unites, second_after⟩

end Workspace

end Multigraph
