import Mathlib.Data.List.Induction
import Mathlib.Data.Set.Function
import Multigraph.Proofs.Product.Build
import Multigraph.Proofs.Workspace.Merge

/-!
Builds under any edge rule. Before the rule is called for the first time the destination has been
emptied and has one node for each pair, and the grid is complete (`placed_prepared`). The rule is
then called for each pair in turn, on the graph and with the memory that the calls before have left,
until a call fails; and whatever happens the grid and the edges drawn so far remain
(`buildGrid_visits`). That no other call is made is seen from a rule that also writes down the pairs
for which it is called (`recorded_forM`).
-/
namespace Multigraph

open Multigraph.Action Build

namespace Graph

/-- A graph has the nodes of another, and its edges with perhaps more behind them. -/
structure Extends (g h : Graph) : Prop where
  nodes_eq : h.nodes = g.nodes
  nextNode_eq : h.nextNode = g.nextNode
  edges_prefix : g.edges <+: h.edges

instance : IsPreorder Graph Extends where
  refl _ := ⟨rfl, rfl, List.prefix_refl _⟩
  trans _ _ _ first second := ⟨second.nodes_eq.trans first.nodes_eq,
    second.nextNode_eq.trans first.nextNode_eq, first.edges_prefix.trans second.edges_prefix⟩

theorem newEdge_extends (source target : NodeId) : Keeps Extends (newEdge source target) :=
  keeps_bind (keeps_query _) fun _ => keeps_bind (keeps_query _) fun _ _ =>
    ⟨rfl, rfl, List.prefix_append _ _⟩

end Graph

/-! ## Calls -/

namespace EdgeCall

variable {μ : Type} {call : EdgeCall μ} {grid : Grid} {pair : NodeId × NodeId}
  {pairs : List (NodeId × NodeId)}

/-- No call makes or deletes a node or deletes an edge, whatever is remembered and even if it
fails. -/
def OnlyAdds (call : EdgeCall μ) : Prop :=
  ∀ grid v w, Keeps (InvImage Graph.Extends Prod.fst) (call grid v w)

/-- Calls that are made one after the other only add. -/
theorem OnlyAdds.calls (adds : call.OnlyAdds) (grid : Grid) (pairs : List (NodeId × NodeId)) :
    Keeps (InvImage Graph.Extends Prod.fst) (pairs.forM (call.at grid)) :=
  keeps_forM fun pair _ => adds grid pair.1 pair.2

/-- A call is made as it is, and its pair is written down behind the others. -/
theorem recorded_of_ok {state reached : Graph × μ}
    (called : call.at grid pair state = .ok () reached) (done : List (NodeId × NodeId)) :
    call.recorded.at grid pair (state.1, state.2, done) =
      .ok () (reached.1, reached.2, done ++ [pair]) :=
  (modify_bind_run _ _ _).trans (within_of_ok called)

/-- So is a call that fails. -/
theorem recorded_of_error {state reached : Graph × μ} {failure : Failure}
    (raised : call.at grid pair state = .error failure reached) (done : List (NodeId × NodeId)) :
    call.recorded.at grid pair (state.1, state.2, done) =
      .error failure (reached.1, reached.2, done ++ [pair]) :=
  (modify_bind_run _ _ _).trans (within_of_error raised)

/-- Calls that succeed are written down in their order. -/
theorem recorded_forM {state reached : Graph × μ}
    (called : pairs.forM (call.at grid) state = .ok () reached) (done : List (NodeId × NodeId)) :
    pairs.forM (call.recorded.at grid) (state.1, state.2, done) =
      .ok () (reached.1, reached.2, done ++ pairs) := by
  induction pairs generalizing state done with
  | nil =>
    cases called
    rw [List.append_nil]
    rfl
  | cons pair rest ih =>
    obtain ⟨_, between, here, onward⟩ := of_bind_ok called
    have others := ih onward (done ++ [pair])
    rw [List.append_assoc, List.singleton_append] at others
    exact (bind_of_ok (recorded_of_ok here done)).trans others

end EdgeCall

/-- Along edges of the factors nothing but edges is added. -/
theorem Drawing.along_adds {μ : Type}
    (targets : NodeId → NodeId → Except Failure (List (NodeId × NodeId))) :
    ((Drawing.along targets).call : EdgeCall μ).OnlyAdds := by
  intro grid v w
  have adds : Keeps Graph.Extends (Drawing.along targets grid v w) :=
    keeps_bind (keeps_ofExcept _) fun _ => keeps_bind (keeps_ofExcept _) fun _ =>
      keeps_forM fun _ _ => keeps_bind (keeps_ofExcept _) fun _ =>
        keeps_discard (Graph.newEdge_extends _ _)
  exact keeps_within adds fun _ _ extended => extended

namespace Build

variable {μ : Type} {first second : Graph} {build : Build μ} {call : EdgeCall μ}

/-! ## Before the first call -/

/-- What a build has made ready when it calls its rule for the first time: `start` is the
destination and `full` the grid. -/
structure Prepared (first second before : Graph) (full : Grid) (start : Graph) : Prop where
  nodes_eq : start.nodes = handlesFrom before.nextNode (first.nodeCount * second.nodeCount)
  no_edges : start.edges = []
  /-- The grid lists all pairs row by row, with the nodes in their order. -/
  items_eq : full.items = (pairsOf first.nodes second.nodes).zip start.nodes
  /-- So it takes the pairs to the nodes, each to its own. -/
  bijective : ∃ place : NodeId × NodeId → NodeId,
    (∀ v w, full.node? v w =
      if v ∈ first.nodes ∧ w ∈ second.nodes then some (place (v, w)) else none) ∧
    Set.BijOn place {pair | pair.1 ∈ first.nodes ∧ pair.2 ∈ second.nodes}
      {node | node ∈ start.nodes}

theorem placed_prepared (rows : first.nodes.Nodup) (columns : second.nodes.Nodup)
    (build : Build μ) :
    Prepared first second build.graph (build.placed (pairsOf first.nodes second.nodes)).grid
      (build.placed (pairsOf first.nodes second.nodes)).graph := by
  have distinct := nodup_pairsOf rows columns
  have nodes : (build.placed (pairsOf first.nodes second.nodes)).graph.nodes =
      handlesFrom build.graph.nextNode (pairsOf first.nodes second.nodes).length := rfl
  have items := items_filled build.graph.nextNode distinct
  refine ⟨?_, rfl, ?_, handleOf build.graph.nextNode (pairsOf first.nodes second.nodes), ?_, ?_⟩
  · rw [nodes, length_pairsOf]
    rfl
  · rw [nodes]
    exact items
  · intro v w
    have looked := lookup_zip_handlesFrom build.graph.nextNode (pairsOf first.nodes second.nodes)
      (v, w)
    rw [← items] at looked
    simp only [mem_pairsOf] at looked
    exact looked
  · refine ⟨?_, ?_, ?_⟩
    · intro pair held
      exact handleOf_mem (mem_pairsOf.mpr held)
    · intro pair held other _ same
      exact handleOf_inj (mem_pairsOf.mpr held) same
    · intro node listed
      have onto : node ∈ (pairsOf first.nodes second.nodes).map
          (handleOf build.graph.nextNode (pairsOf first.nodes second.nodes)) := by
        rw [map_handleOf _ distinct]
        exact listed
      obtain ⟨pair, member, rfl⟩ := List.mem_map.mp onto
      exact ⟨pair, mem_pairsOf.mp member, rfl⟩

/-! ## The visits -/

/-- If all calls succeed, so does the build, whatever the rule remembers at first. -/
theorem run_of_calls (before : Build Unit) {pairs : List (NodeId × NodeId)}
    (listed : pairsOf first.nodes second.nodes = pairs) {memory left : μ} {final : Graph}
    (called : pairs.forM (call.at (before.placed pairs).grid)
      ((before.placed pairs).graph, memory) = .ok () (final, left)) :
    run (.other first) (.other second) (fun _ _ => call)
        { graph := before.graph, grid := before.grid, memory := memory } =
      .ok (.product final.nodeCount final.edgeCount)
        { graph := final, grid := (before.placed pairs).grid, memory := left } := by
  have visited := visitPairs_of_ok ⟨_, (before.placed pairs).grid, memory⟩ called
  rw [run_placed, listed]
  exact (bind_of_ok visited).trans (get_bind_run _ _)

/-- If a call fails after others have succeeded, no other call is made. -/
theorem run_of_failure (before : Build Unit) {done rest : List (NodeId × NodeId)}
    {pair : NodeId × NodeId} {pairs : List (NodeId × NodeId)}
    (listed : pairsOf first.nodes second.nodes = pairs) (cut : pairs = done ++ pair :: rest)
    {memory between left : μ} {reached final : Graph} {failure : Failure}
    (called : done.forM (call.at (before.placed pairs).grid)
      ((before.placed pairs).graph, memory) = .ok () (reached, between))
    (raised : call.at (before.placed pairs).grid pair (reached, between) =
      .error failure (final, left)) :
    run (.other first) (.other second) (fun _ _ => call)
        { graph := before.graph, grid := before.grid, memory := memory } =
      .error failure { graph := final, grid := (before.placed pairs).grid, memory := left } := by
  have visited := visitPairs_of_ok ⟨_, (before.placed pairs).grid, memory⟩ called
  have broken := visitPair_of_error ⟨reached, (before.placed pairs).grid, between⟩ raised
  have stopped := forM_stops visited broken rest
  rw [← cut] at stopped
  rw [run_placed, listed]
  exact bind_of_error stopped

end Build

namespace Workspace

variable {w : Workspace} {rule : EdgeRule} {first second destination : GraphId} {grid : GridId}

/-- The build of two graphs under the calls of a rule, as its destination, its grid and its memory
are found. -/
def buildOf {μ : Type} (w : Workspace) (first second destination : GraphId) (grid : GridId)
    (call : EdgeCall μ) (memory : μ) : EStateM.Result Failure (Build μ) Event :=
  Build.run (.other (w.graph first)) (.other (w.graph second)) (fun _ _ => call)
    { graph := w.graph destination, grid := w.grid grid, memory := memory }

/-- A command to build goes the way of the build under the rule that writes down its pairs. -/
theorem buildGrid_completes (apart : destination ≠ first) (away : destination ≠ second)
    {event : Event} {final : Graph} {full : Grid} {left : rule.Memory}
    {visited : List (NodeId × NodeId)}
    (built : w.buildOf first second destination grid rule.call.recorded (rule.memory, []) =
      .ok event { graph := final, grid := full, memory := (left, visited) }) :
    run (.buildGrid rule first second destination grid) w =
      .ok { answer := .visited visited, event := some event }
        ((w.setGraph destination final).setGrid grid full) := by
  rw [buildOf, ← operand_other apart, ← operand_other away] at built
  have told : (do
      let event ← Build.run (w.operand destination first) (w.operand destination second)
        fun _ _ => rule.call.recorded
      return (event, (← get).memory.2) : Action _ _)
        { graph := w.graph destination, grid := w.grid grid, memory := (rule.memory, []) } =
          .ok (event, visited) { graph := final, grid := full, memory := (left, visited) } :=
    (bind_of_ok built).trans (get_bind_run _ _)
  exact (get_bind_run _ w).trans (bind_of_ok (onBuild_run told))

/-- What a build has left when it fails is put back. -/
theorem buildGrid_fails (apart : destination ≠ first) (away : destination ≠ second)
    {failure : Failure} {final : Graph} {full : Grid} {left : rule.Memory}
    {visited : List (NodeId × NodeId)}
    (failed : w.buildOf first second destination grid rule.call.recorded (rule.memory, []) =
      .error failure { graph := final, grid := full, memory := (left, visited) }) :
    run (.buildGrid rule first second destination grid) w =
      .error failure ((w.setGraph destination final).setGrid grid full) := by
  rw [buildOf, ← operand_other apart, ← operand_other away] at failed
  exact (get_bind_run _ w).trans (bind_of_error (onBuild_failed (bind_of_error failed)))

/-- A build has left a graph at its destination and a grid, and nothing else has changed. -/
structure Filled (w : Workspace) (destination : GraphId) (grid : GridId) (final : Graph)
    (full : Grid) (after : Workspace) : Prop where
  graph_eq : after.graph destination = final
  grid_eq : after.grid grid = full
  others : ∀ other, other ≠ destination → after.graph other = w.graph other
  maps_eq : after.maps = w.maps

theorem filled_run (held : destination < w.graphs.length) (present : grid < w.grids.length)
    (final : Graph) (full : Grid) :
    w.Filled destination grid final full ((w.setGraph destination final).setGrid grid full) where
  graph_eq := (graph_setGraph w destination destination final).trans (if_pos ⟨rfl, held⟩)
  grid_eq := grid_setGrid present full
  others other elsewhere :=
    (graph_setGraph w destination other final).trans (if_neg fun both => elsewhere both.1.symm)
  maps_eq := rfl

/-- How the visits of a build go. The calls are made for the pairs row by row, each on the graph and
with the memory that those before it have left, under the complete grid `full` and from the emptied
destination `start` on. The rule that also writes down its pairs tells that they are made once. -/
inductive Visits (w : Workspace) (rule : EdgeRule) (first second destination : GraphId)
    (grid : GridId) (full : Grid) (start : Graph) : Prop where
  /-- Every call succeeds, and all pairs have been visited. -/
  | completes {final : Graph} {left : rule.Memory} {after : Workspace}
      (called : (pairsOf (w.graph first).nodes (w.graph second).nodes).forM (rule.call.at full)
        (start, rule.memory) = .ok () (final, left))
      (built : w.buildOf first second destination grid rule.call rule.memory =
        .ok (.product final.nodeCount final.edgeCount)
          { graph := final, grid := full, memory := left })
      (recorded : w.buildOf first second destination grid rule.call.recorded (rule.memory, []) =
        .ok (.product final.nodeCount final.edgeCount)
          { graph := final, grid := full,
            memory := (left, pairsOf (w.graph first).nodes (w.graph second).nodes) })
      (ran : run (.buildGrid rule first second destination grid) w =
        .ok { answer := .visited (pairsOf (w.graph first).nodes (w.graph second).nodes),
              event := some (.product final.nodeCount final.edgeCount) } after)
      (kept : start.Extends final)
      (filled : w.Filled destination grid final full after)
  /-- A call fails after those before it have succeeded, and no other pair is visited. -/
  | stops {done rest : List (NodeId × NodeId)} {pair : NodeId × NodeId}
      {reached final : Graph} {between left : rule.Memory} {failure : Failure} {after : Workspace}
      (cut : pairsOf (w.graph first).nodes (w.graph second).nodes = done ++ pair :: rest)
      (called : done.forM (rule.call.at full) (start, rule.memory) = .ok () (reached, between))
      (raised : rule.call.at full pair (reached, between) = .error failure (final, left))
      (built : w.buildOf first second destination grid rule.call rule.memory =
        .error failure { graph := final, grid := full, memory := left })
      (recorded : w.buildOf first second destination grid rule.call.recorded (rule.memory, []) =
        .error failure { graph := final, grid := full, memory := (left, done ++ [pair]) })
      (ran : run (.buildGrid rule first second destination grid) w = .error failure after)
      (kept : start.Extends reached ∧ reached.Extends final)
      (filled : w.Filled destination grid final full after)

/-- In every workspace that commands lead to, and whatever the destination and the grid hold, a
build of two graphs, which may be one, into a third has made the nodes and the grid ready before it
calls its rule. It calls any rule that only adds, whatever the rule remembers from call to call, for
each pair once, row by row, until a call fails, and leaves the grid and what has been drawn so
far. -/
theorem buildGrid_visits (reached : w.Reachable) (apart : destination ≠ first)
    (away : destination ≠ second) (held : destination < w.graphs.length)
    (present : grid < w.grids.length) :
    ∃ full start,
      Build.Prepared (w.graph first) (w.graph second) (w.graph destination) full start ∧
      ∀ rule : EdgeRule, rule.call.OnlyAdds →
        Visits w rule first second destination grid full start := by
  have rows := (reached.wellFormed first).nodes_nodup
  have columns := (reached.wellFormed second).nodes_nodup
  obtain ⟨pairs, listed⟩ : ∃ pairs, pairsOf (w.graph first).nodes (w.graph second).nodes = pairs :=
    ⟨_, rfl⟩
  -- What is placed depends on neither the rule nor its memory.
  obtain ⟨before, made⟩ : ∃ before : Build Unit,
      before = { graph := w.graph destination, grid := w.grid grid, memory := () } := ⟨_, rfl⟩
  have prepared := placed_prepared rows columns before
  rw [listed] at prepared
  refine ⟨_, _, made ▸ prepared, fun rule adds => ?_⟩
  rcases forM_cases pairs (rule.call.at (before.placed pairs).grid)
      ((before.placed pairs).graph, rule.memory) with
    ⟨⟨final, left⟩, called⟩ |
      ⟨done, pair, rest, ⟨reached, between⟩, failure, ⟨final, left⟩, cut, called, raised⟩
  · have kept := (adds.calls _ _).reached called
    have built := run_of_calls before listed called
    have recorded := run_of_calls before listed (EdgeCall.recorded_forM called [])
    subst made listed
    exact .completes called built recorded (buildGrid_completes apart away recorded) kept
      (filled_run held present final _)
  · have kept := (adds.calls _ _).reached called
    have last : InvImage Graph.Extends Prod.fst (reached, between) (final, left) :=
      after_of_error raised ▸ adds _ pair.1 pair.2 _
    have built := run_of_failure before listed cut called raised
    have recorded := run_of_failure before listed cut (EdgeCall.recorded_forM called [])
      (EdgeCall.recorded_of_error raised done)
    subst made listed
    exact .stops cut called raised built recorded (buildGrid_fails apart away recorded)
      ⟨kept, last⟩ (filled_run held present final _)

/-- A rule that remembers for which pairs it has been called. It draws a loop at each, and fails
when it has been called more often than the limit says. -/
def limited (limit : Nat) : EdgeCall (List (NodeId × NodeId)) := fun grid v w => do
  modify fun state => (state.1, state.2 ++ [(v, w)])
  (Drawing.along fun v w => pure [(v, w)]).call grid v w
  if limit < (← get).2.length then throw (.missingPair v w)

theorem limited_adds (limit : Nat) : (limited limit).OnlyAdds := fun grid v w =>
  keeps_bind (keeps_modify fun state => refl state.1) fun _ =>
    keeps_bind (Drawing.along_adds _ grid v w) fun _ =>
      keeps_bind keeps_get fun _ => keeps_ite (keeps_throw _) (keeps_pure ())

/-- A factor with a gap in its handles, a destination in use and a grid with a stale pair. -/
def reused : List Command :=
  [.newGraph, .newNode 0, .newNode 0, .newNode 0, .deleteNode 0 0, .newEdge 0 1 2, .newGraph,
    .newNode 1, .newNode 1, .newEdge 1 0 1, .newGrid, .assign 0 7 7 7]

theorem buildGrid_visits_reused :
    Reachable (runAll {} reused) ∧ 1 ≠ 0 ∧ 1 < (runAll {} reused).graphs.length ∧
    0 < (runAll {} reused).grids.length ∧
    ∃ full start,
      Build.Prepared ((runAll {} reused).graph 0) ((runAll {} reused).graph 0)
        ((runAll {} reused).graph 1) full start ∧
      start.nodes = [2, 3, 4, 5] ∧
      Visits (runAll {} reused) ⟨_, [], limited 2⟩ 0 0 1 0 full start ∧
      -- By its own account the rule has been called for three of the four pairs.
      ((Build.run (.other ((runAll {} reused).graph 0)) (.other ((runAll {} reused).graph 0))
        fun _ _ => limited 2).after
          { graph := (runAll {} reused).graph 1, grid := (runAll {} reused).grid 0,
            memory := [] }).memory = [(1, 1), (1, 2), (2, 1)] ∧
      (((run (.buildGrid ⟨_, [], limited 2⟩ 0 0 1 0)).after (runAll {} reused)).graph 1).edges =
        [⟨1, 2, 2⟩, ⟨2, 3, 3⟩, ⟨3, 4, 4⟩] := by
  have reached : Reachable (runAll {} reused) :=
    reachable_runAll .empty (by simp [reused, Command.Proper])
  have apart : 1 ≠ 0 := by decide
  have held : 1 < (runAll {} reused).graphs.length := by decide +kernel
  have present : 0 < (runAll {} reused).grids.length := by decide +kernel
  obtain ⟨full, start, prepared, visits⟩ := buildGrid_visits reached apart apart held present
  have nodes : start.nodes = [2, 3, 4, 5] := prepared.nodes_eq.trans (by decide +kernel)
  exact ⟨reached, apart, held, present, full, start, prepared, nodes,
    visits ⟨_, [], limited 2⟩ (limited_adds 2), by decide +kernel, by decide +kernel⟩

end Workspace

end Multigraph
