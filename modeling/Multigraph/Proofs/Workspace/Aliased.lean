import Multigraph.Proofs.Operation.DisjointUnion
import Multigraph.Proofs.Operation.Merging
import Multigraph.Proofs.Product.Aliased
import Multigraph.Proofs.Workspace.Refinement

/-!
Commands that are given one graph twice. What a command lists before it changes the graph decides
what becomes of it: an insertion, a disjoint union and a union list the nodes first and double the
graph (`insert_self`, `union_self`); an intersection looks for correspondents that it may have
deleted (`intersection_self_iff`); a join lists the copies that it has made, which have no copies
(`join_self_stuck`); and a product into a factor has emptied it (`product_into_factor`).
-/
namespace Multigraph

open Multigraph.Action

/-- What it is for a graph to have been doubled: behind the nodes and edges that were there stand
copies of them, and nothing else. -/
structure Graph.Doubled (g after : Graph) : Prop where
  fresh : g.nodes.map (handleOf g.nextNode g.nodes) = handlesFrom g.nextNode g.nodes.length
  nodes_eq : after.nodes = g.nodes ++ g.nodes.map (handleOf g.nextNode g.nodes)
  edges_eq : after.edges = g.edges ++
    Edge.numbered g.nextEdge (g.edges.map (Edge.endsUnder (handleOf g.nextNode g.nodes)))

theorem Graph.doubled_withCopy {g : Graph} (wf : g.WellFormed) : g.Doubled (g.withCopy g) where
  fresh := map_handleOf g.nextNode wf.nodes_nodup
  nodes_eq := nodes_withCopy g wf
  edges_eq := rfl

namespace Workspace

variable {w : Workspace} {g : GraphId} {m : MapId} {policy : UnionPolicy}

/-! ## Insertions and unions -/

/-- Inserting a graph into itself doubles it and answers the copy of every node. -/
theorem insert_self (reached : w.Reachable) (held : g < w.graphs.length) :
    ∃ copies after, run (.insert g g) w = .ok { answer := .renaming copies } after ∧
      (w.graph g).Doubled (after.graph g) ∧ ∀ node ∈ (w.graph g).nodes,
        copies.nodes.fetch node =
          .ok (handleOf (w.graph g).nextNode (w.graph g).nodes node) := by
  have wf := reached.wellFormed g
  have inserted : onGraph g (Graph.insert (w.graph g)) w = .ok _
      (w.setGraph g ((w.graph g).withCopy (w.graph g))) := onGraph_run (Graph.insert_run wf)
  have there : (w.setGraph g ((w.graph g).withCopy (w.graph g))).graph g =
      (w.graph g).withCopy (w.graph g) := (setGraph_replaced held _).graph_eq
  refine ⟨_, _, (get_bind_run _ w).trans (bind_of_ok inserted), ?_, ?_⟩
  · rw [there]
    exact Graph.doubled_withCopy wf
  · intro node member
    exact Graph.fetch_copies _ member

/-- The disjoint union of a graph with itself doubles it. -/
theorem disjointUnion_self (reached : w.Reachable) (held : g < w.graphs.length) :
    ∃ after, run (.disjointUnion g g) w =
        .ok { answer := .map w.maps.length, event := none } after ∧
      (w.graph g).Doubled (after.graph g) := by
  obtain ⟨after, ran, _, replaced⟩ := disjointUnion_command reached held g
  refine ⟨after, ran, ?_⟩
  rw [replaced.graph_eq]
  exact Graph.doubled_withCopy (reached.wellFormed g)

/-- The union of a graph with itself is like any other: the unset nodes get copies, and every edge
is drawn again between the places of its ends. -/
theorem union_self (reached : w.Reachable) (held : g < w.graphs.length)
    (bound : w.isBoundTo m g = true)
    (valid : (w.map m).values.PointsInto (w.graph g) (w.graph g))
    (kept : policy.parallelFree = false) :
    ∃ event after place, run (.union g g (some m) policy) w =
        .ok { answer := .map m, event := some event } after ∧
      Graph.Unites policy (w.graph g) (w.graph g) (w.map m).values place (after.graph g) ∧
      (after.graph g).edges = Graph.unionEdges (w.graph g) (w.graph g) place ∧
      (∀ node ∈ (w.graph g).nodes, after.readKey m node = .ok (some (.int (place node)))) ∧
      ∀ node ∈ (after.graph g).nodes, node ∉ (w.graph g).nodes →
        after.readKey m node = .ok none := by
  have wf := reached.wellFormed g
  have ran := union_completes bound (Graph.union_run wf wf valid policy)
  have unites := Graph.union_unites wf wf valid policy
  obtain ⟨united, made⟩ : ∃ h, h = Graph.thinned policy
      (Graph.united (w.graph g) (w.graph g) (w.map m).values) := ⟨_, rfl⟩
  obtain ⟨after, left⟩ : ∃ v, v = w.recorded g united m
      ((w.map m).values.unionImages (w.graph g).nextNode (w.graph g)) := ⟨_, rfl⟩
  have there : after.graph g = united := by
    rw [left]
    exact graph_recorded_self held united m _
  rw [← made] at ran unites
  rw [← left] at ran
  have distinct := Assignment.keys_unionImages_nodup (w.map m).values wf (w.graph g).nextNode
  refine ⟨_, after, (w.map m).values.unionPlace (w.graph g).nextNode (w.graph g), ran,
    there ▸ unites, there ▸ unites.edges_eq kept, ?_, ?_⟩
  · intro node former
    subst left
    refine readKey_recorded bound distinct (Assignment.get?_unionImages valid _ former) ?_
    rw [there, unites.nodes_eq]
    exact List.mem_append_left _ former
  · intro node listed foreign
    have absent : ((w.map m).values.unionImages (w.graph g).nextNode (w.graph g)).get? node =
        none := by
      refine Table.lookup_eq_none fun key => foreign ?_
      exact Assignment.keys_unionImages_subset _ _ _ node key
    -- A new node has a handle that no value was ever written for.
    have fresh : (w.graph g).nextNode ≤ node := by
      rw [there, unites.nodes_eq, unites.fresh] at listed
      exact (mem_handlesFrom.mp ((List.mem_append.mp listed).resolve_left foreign)).1
    have unset := reached.unset_of_nextNode_le (of_decide_eq_true bound) fresh
    subst left
    rw [readKey_recorded_absent bound distinct absent listed, unset]

/-! ## Intersections -/

/-- The intersection of a graph with itself completes if every correspondent has a correspondent. -/
theorem intersection_self_completes (reached : w.Reachable) (bound : w.isBoundTo m g = true)
    (valid : (w.map m).values.PointsInto (w.graph g) (w.graph g))
    (closed : ∀ node ∈ (w.graph g).nodes, ∀ image,
      (w.map m).values.get? node = some (.int image) → (w.map m).values.get? image ≠ none) :
    ∃ reply after, run (.intersection g g m) w = .ok reply after := by
  obtain ⟨event, h, ran⟩ := Graph.intersection_same_run (reached.wellFormed g) valid (by
    intro node held image target
    exact Option.isSome_iff_ne_none.mpr
      (closed node held image (Assignment.target?_eq_some.mp target)))
  rw [← operand_same w g] at ran
  exact ⟨_, _, intersection_completes bound ran⟩

/-- The intersection of a graph with itself asks for a node that is gone if some correspondent has
no correspondent. -/
theorem intersection_self_fails (reached : w.Reachable) (bound : w.isBoundTo m g = true)
    (valid : (w.map m).values.PointsInto (w.graph g) (w.graph g)) {node image : NodeId}
    (held : node ∈ (w.graph g).nodes) (set : (w.map m).values.get? node = some (.int image))
    (bare : (w.map m).values.get? image = none) :
    ∃ failure after, run (.intersection g g m) w = .error failure after ∧
      failure.category = .graph := by
  obtain ⟨lost, h, stuck⟩ := Graph.intersection_same_stuck (reached.wellFormed g) valid held
    (Assignment.target?_eq_some.mpr set) bare
  rw [← operand_same w g] at stuck
  exact ⟨_, _, intersection_fails bound stuck, rfl⟩

/-- The intersection of a graph with itself fails exactly if a correspondent of a node has no
correspondent. -/
theorem intersection_self_iff (reached : w.Reachable) (bound : w.isBoundTo m g = true)
    (valid : (w.map m).values.PointsInto (w.graph g) (w.graph g)) :
    (∃ failure after, run (.intersection g g m) w = .error failure after ∧
      failure.category = .graph) ↔
    ∃ node ∈ (w.graph g).nodes, ∃ image,
      (w.map m).values.get? node = some (.int image) ∧ (w.map m).values.get? image = none := by
  constructor
  · rintro ⟨failure, after, failed, _⟩
    by_contra closed
    push Not at closed
    obtain ⟨_, _, completed⟩ := intersection_self_completes reached bound valid closed
    rw [completed] at failed
    cases failed
  · rintro ⟨node, held, image, set, bare⟩
    exact intersection_self_fails reached bound valid held set bare

/-! ## Joins -/

/-- A join that fails has not touched its correspondence, so nodes that are still there read as they
did. -/
theorem readKey_setGraph (bound : w.isBoundTo m g = true) {h : Graph} {node : NodeId}
    (former : node ∈ (w.graph g).nodes) (still : node ∈ h.nodes) (held : g < w.graphs.length) :
    (w.setGraph g h).readKey m node = w.readKey m node := by
  have there : (w.setGraph g h).graph g = h := (setGraph_replaced held h).graph_eq
  have binding : (w.setGraph g h).isBoundTo m g = true := bound
  have listed : node ∈ ((w.setGraph g h).graph g).nodes := by
    rw [there]
    exact still
  rw [readKey_run binding listed, readKey_run bound former]
  rfl

/-- The join of a graph that has nodes with itself lacks the copy of the first identified node or,
if there is none, of the first node; the former nodes read as before. -/
theorem join_self_stuck (reached : w.Reachable) (held : g < w.graphs.length)
    (bound : w.isBoundTo m g = true)
    (valid : (w.map m).values.PointsInto (w.graph g) (w.graph g)) {node : NodeId}
    (stuck : ((w.graph g).nodes.find? fun other => ((w.map m).values.get? other).isSome).or
      (w.graph g).nodes.head? = some node) :
    ∃ after, run (.join g g m) w =
        .error (.missingKey (handleOf (w.graph g).nextNode (w.graph g).nodes node)) after ∧
      ∀ old ∈ (w.graph g).nodes, after.readKey m old = w.readKey m old := by
  obtain ⟨h, failed, still⟩ := Graph.join_same_stuck (reached.wellFormed g) valid stuck
  rw [← operand_same w g] at failed
  refine ⟨_, join_fails bound failed, fun old former => ?_⟩
  exact readKey_setGraph bound former (still old former) held

/-- The join of a graph with itself succeeds exactly if the graph has no nodes. -/
theorem join_self_iff (reached : w.Reachable) (held : g < w.graphs.length)
    (bound : w.isBoundTo m g = true)
    (valid : (w.map m).values.PointsInto (w.graph g) (w.graph g)) :
    (∃ reply after, run (.join g g m) w = .ok reply after) ↔ (w.graph g).nodes = [] := by
  constructor
  · rintro ⟨reply, after, ran⟩
    cases nodes : (w.graph g).nodes with
    | nil => rfl
    | cons head rest =>
      obtain ⟨node, stuck⟩ := Graph.exists_stuck (w.map m).values nodes
      obtain ⟨_, failed, _⟩ := join_self_stuck reached held bound valid stuck
      rw [failed] at ran
      cases ran
  · intro empty
    obtain ⟨event, h, ran⟩ := Graph.join_same_empty (reached.wellFormed g) empty (w.map m).values
    rw [← operand_same w g] at ran
    exact ⟨_, _, join_completes bound ran⟩

/-! ## One graph given twice -/

/-- In every workspace that commands lead to, for every graph of it. Inserting the graph into itself
and its disjoint union with itself double it. Its union with itself, no parallel edges removed,
appends a new node for every unset node and an edge for every edge, sets the former nodes and does
not set the new ones. Its intersection with itself fails for a missing node exactly if a
correspondent of a node has no correspondent, and completes otherwise. Its join with itself succeeds
exactly if it has no nodes; otherwise the key that is missing is the copy of the first identified
node or, if there is none, of the first node, and the former nodes read as before. A product of it
and any graph into it, in either order, that is asked for as it has to be succeeds and leaves it
and the grid empty. -/
theorem aliased_arguments (reached : w.Reachable) (held : g < w.graphs.length) :
    (∃ copies after, run (.insert g g) w = .ok { answer := .renaming copies } after ∧
      (w.graph g).Doubled (after.graph g) ∧ ∀ node ∈ (w.graph g).nodes,
        copies.nodes.fetch node =
          .ok (handleOf (w.graph g).nextNode (w.graph g).nodes node)) ∧
    (∃ after, run (.disjointUnion g g) w =
        .ok { answer := .map w.maps.length, event := none } after ∧
      (w.graph g).Doubled (after.graph g)) ∧
    (∀ m, w.isBoundTo m g = true → (w.map m).values.PointsInto (w.graph g) (w.graph g) →
      (∀ policy : UnionPolicy, policy.parallelFree = false →
        ∃ event after place, run (.union g g (some m) policy) w =
            .ok { answer := .map m, event := some event } after ∧
          Graph.Unites policy (w.graph g) (w.graph g) (w.map m).values place (after.graph g) ∧
          (after.graph g).edges = Graph.unionEdges (w.graph g) (w.graph g) place ∧
          (∀ node ∈ (w.graph g).nodes,
            after.readKey m node = .ok (some (.int (place node)))) ∧
          ∀ node ∈ (after.graph g).nodes, node ∉ (w.graph g).nodes →
            after.readKey m node = .ok none) ∧
      ((∃ failure after, run (.intersection g g m) w = .error failure after ∧
          failure.category = .graph) ↔
        ∃ node ∈ (w.graph g).nodes, ∃ image,
          (w.map m).values.get? node = some (.int image) ∧
            (w.map m).values.get? image = none) ∧
      ((∃ reply after, run (.join g g m) w = .ok reply after) ↔ (w.graph g).nodes = []) ∧
      ((w.graph g).nodes ≠ [] → ∃ node after,
        ((w.graph g).nodes.find? fun other => ((w.map m).values.get? other).isSome).or
          (w.graph g).nodes.head? = some node ∧
        run (.join g g m) w =
          .error (.missingKey (handleOf (w.graph g).nextNode (w.graph g).nodes node)) after ∧
        ∀ old ∈ (w.graph g).nodes, after.readKey m old = w.readKey m old)) ∧
    ∀ kind root product first second (grid : Option GridId),
      Product.ofRequest kind root = .ok product →
      product.requireRoot (w.graph second) = .ok () → g = first ∨ g = second →
      (∀ id, grid = some id → id < w.grids.length) →
      ∃ after id, run (.product kind root first second g grid) w =
          .ok { answer := .grid id, event := some (.product 0 0) } after ∧
        (∀ given, grid = some given → id = given) ∧
        (after.graph g).nodes = [] ∧ (after.graph g).edges = [] ∧ after.grid id = {} := by
  refine ⟨insert_self reached held, disjointUnion_self reached held, ?_, ?_⟩
  · intro m bound valid
    refine ⟨fun policy => union_self reached held bound valid,
      intersection_self_iff reached bound valid, join_self_iff reached held bound valid, ?_⟩
    intro some_node
    obtain ⟨head, rest, nodes⟩ := List.exists_cons_of_ne_nil some_node
    obtain ⟨node, stuck⟩ := Graph.exists_stuck (w.map m).values nodes
    obtain ⟨after, failed, former⟩ := join_self_stuck reached held bound valid stuck
    exact ⟨node, after, stuck, failed, former⟩
  · intro kind root product first second grid asked rooted aliased present
    obtain ⟨after, id, ran, given, emptied, cleared, _⟩ :=
      product_into_factor asked rooted aliased held present
    refine ⟨after, id, ran, given, ?_, ?_, cleared⟩
    · rw [emptied]
      rfl
    · rw [emptied]
      rfl

/-- A graph with a gap in its handles and a loop, and a correspondence of the graph with itself in
which one of its two nodes corresponds to the other. -/
def echoed : List Command :=
  [.newGraph, .newNode 0, .newNode 0, .newNode 0, .deleteNode 0 0, .newEdge 0 1 2, .newEdge 0 2 2,
    .newMap (some 0), .write 0 2 (some (.int 1))]

theorem aliased_arguments_echoed :
    Reachable (runAll {} echoed) ∧ 0 < (runAll {} echoed).graphs.length ∧
    (runAll {} echoed).isBoundTo 0 0 = true ∧
    ((runAll {} echoed).map 0).values.PointsInto ((runAll {} echoed).graph 0)
      ((runAll {} echoed).graph 0) ∧
    (∃ after, run (.disjointUnion 0 0) (runAll {} echoed) =
        .ok { answer := .map 1, event := none } after ∧ (after.graph 0).nodes = [1, 2, 3, 4]) ∧
    (∃ failure after, run (.intersection 0 0 0) (runAll {} echoed) = .error failure after ∧
      failure.category = .graph) ∧
    (∃ after, run (.join 0 0 0) (runAll {} echoed) = .error (.missingKey 4) after ∧
      after.readKey 0 2 = .ok (some (.int 1))) ∧
    ∃ after id, run (.product (.text "cartesian") none 0 0 0 none) (runAll {} echoed) =
        .ok { answer := .grid id, event := some (.product 0 0) } after ∧
      (after.graph 0).nodes = [] := by
  have reached : Reachable (runAll {} echoed) :=
    reachable_runAll .empty (by simp [echoed, Command.Proper])
  have held : 0 < (runAll {} echoed).graphs.length := by decide +kernel
  have bound : (runAll {} echoed).isBoundTo 0 0 = true := by decide +kernel
  have valid : ((runAll {} echoed).map 0).values.PointsInto ((runAll {} echoed).graph 0)
      ((runAll {} echoed).graph 0) := by decide +kernel
  have nodes : ((runAll {} echoed).graph 0).nodes = [1, 2] := by decide +kernel
  have counter : ((runAll {} echoed).graph 0).nextNode = 3 := by decide +kernel
  have bare : ((runAll {} echoed).map 0).values.get? 1 = none := by decide +kernel
  have set : ((runAll {} echoed).map 0).values.get? 2 = some (.int 1) := by decide +kernel
  obtain ⟨_, ⟨doubled, united, twice⟩, merges, products⟩ := aliased_arguments reached held
  obtain ⟨_, lost, _, joined⟩ := merges 0 bound valid
  obtain ⟨node, stuck, found, failed, former⟩ := joined (by simp [nodes])
  obtain ⟨emptied, id, ran, _, empty, _⟩ := products (.text "cartesian") none .cartesian 0 0 none
    rfl rfl (.inl rfl) fun _ given => by cases given
  obtain rfl : 2 = node := by simpa [nodes, bare, set] using found
  have copies := twice.nodes_eq
  rw [nodes, counter] at copies failed
  have kept := former 2 (by simp [nodes])
  rw [readKey_run bound (by simp [nodes]), set] at kept
  exact ⟨reached, held, bound, valid, ⟨doubled, united, copies⟩,
    lost.mpr ⟨2, by simp [nodes], 1, set, bare⟩, ⟨stuck, failed, kept⟩, emptied, id, ran, empty⟩

end Workspace

end Multigraph
