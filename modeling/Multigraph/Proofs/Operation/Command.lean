import Multigraph.Proofs.Operation.DisjointUnion
import Multigraph.Proofs.Operation.Join
import Multigraph.Proofs.Operation.Union
import Multigraph.Proofs.Workspace.Merge
import Multigraph.Proofs.Workspace.Transcript

/-!
What single commands leave. The removal of parallel edges leaves the first edge of every bundle
(`removeParallel_command`). A disjoint union leaves the first graph with a copy of the second
(`disjointUnion_leaves`), a join the join (`join_leaves`) and a union the thinned union
(`union_leaves`). These three change two objects only, the first graph and the correspondence that
takes the places of the nodes of the second (`Merged`).
-/
namespace Multigraph.Workspace

open Multigraph.Action

variable {w after : Workspace} {first second : GraphId} {m : MapId} {g : Graph}
  {images : Table NodeId NodeId} {place : NodeId → NodeId}

/-- The command that removes parallel edges puts the first edges of the bundles in the place of all
edges and answers how many have gone. -/
theorem removeParallel_completes (reached : w.Reachable) (id : GraphId) (directed : Bool) :
    run (.removeParallel id directed) w =
      .ok { answer := .count ((w.graph id).parallelCount directed), event := none }
        (w.setGraph id
          { w.graph id with edges := Graph.firsts directed [] (w.graph id).edges }) :=
  bind_of_ok (onGraph_run (Graph.removeParallel_run (reached.wellFormed id).ids_nodup directed))

/-- The command that removes parallel edges leaves the first edge of every bundle. -/
theorem removeParallel_command (reached : w.Reachable) {id : GraphId} (held : id < w.graphs.length)
    (directed : Bool) :
    ∃ count after, run (.removeParallel id directed) w =
        .ok { answer := .count count, event := none } after ∧ after.Reachable ∧
      w.Replaced id { w.graph id with edges := Graph.firsts directed [] (w.graph id).edges }
        after := by
  have ran := removeParallel_completes reached id directed
  exact ⟨_, _, ran, reached.ran ran trivial, setGraph_replaced held _⟩

/-! ## Two graphs -/

/-- A second graph has been merged into the first, and a correspondence reads the places of its
nodes. -/
structure Merged (w : Workspace) (first second : GraphId) (g : Graph) (m : MapId)
    (place : NodeId → NodeId) (after : Workspace) : Prop where
  graph_eq : after.graph first = g
  others : ∀ other, other ≠ first → after.graph other = w.graph other
  length_eq : after.graphs.length = w.graphs.length
  bound : ∀ m g, w.isBoundTo m g = true → after.isBoundTo m g = true
  map_eq : ∀ other < w.maps.length, other ≠ m → after.map other = w.map other
  grids_eq : after.grids = w.grids
  reads : ∀ node ∈ (w.graph second).nodes, after.readKey m node = .ok (some (.int (place node)))

theorem merged_recorded (apart : first ≠ second) (held : first < w.graphs.length)
    (binding : w.isBoundTo m second = true) (g : Graph) (distinct : images.keys.Nodup)
    (found : ∀ node ∈ (w.graph second).nodes, images.get? node = some (place node)) :
    w.Merged first second g m place (w.recorded first g m images) where
  graph_eq := graph_recorded_self held g m images
  others other elsewhere :=
    (graph_recorded w first other g m images).trans (if_neg fun both => elsewhere both.1.symm)
  length_eq := List.length_set
  bound m' g' was := by
    by_cases same : m' = m
    · subst same
      have there : (w.recorded first g m' images).map m' =
          { (w.map m') with values := (w.map m').values.recordImages images } :=
        map_setMap (present_of_isBoundTo was) _
      rw [isBoundTo, there]
      exact was
    · rw [isBoundTo, recorded, map_setMap_ne same]
      exact was
  map_eq other _ elsewhere := map_setMap_ne elsewhere _ _
  grids_eq := rfl
  reads node inside := by
    apply readKey_recorded binding distinct (found node inside)
    rw [graph_recorded, if_neg fun both => apart both.1]
    exact inside

theorem isBoundTo_withMap (w : Workspace) (second : GraphId) :
    (w.withMap second).isBoundTo w.maps.length second = true := by
  rw [isBoundTo, map_withMap]
  exact decide_eq_true rfl

/-- A new correspondence makes no difference to the others. -/
theorem Merged.of_withMap
    (merged : (w.withMap second).Merged first second g w.maps.length place after) :
    w.Merged first second g w.maps.length place after := by
  refine ⟨merged.graph_eq, merged.others, merged.length_eq, fun m g was => ?_,
    fun m present elsewhere => ?_, merged.grids_eq, merged.reads⟩
  · apply merged.bound
    rw [isBoundTo, map_withMap_earlier (present_of_isBoundTo was)]
    exact was
  · have later : m < (w.withMap second).maps.length := by
      rw [withMap, List.length_append]
      exact Nat.lt_add_right 1 present
    exact (merged.map_eq m later elsewhere).trans (map_withMap_earlier present)

/-- The images may have been recorded in a new correspondence. -/
theorem merged_recorded_new (apart : first ≠ second) (held : first < w.graphs.length) (g : Graph)
    (distinct : images.keys.Nodup)
    (found : ∀ node ∈ (w.graph second).nodes, images.get? node = some (place node)) :
    w.Merged first second g w.maps.length place
      ((w.withMap second).recorded first g w.maps.length images) :=
  (merged_recorded (w := w.withMap second) apart held (isBoundTo_withMap w second) g distinct
    found).of_withMap

/-- A disjoint union leaves the first graph with a copy of the second, and a new correspondence. -/
theorem disjointUnion_leaves (reached : w.Reachable) (apart : first ≠ second)
    (held : first < w.graphs.length) :
    ∃ after, run (.disjointUnion first second) w =
        .ok { answer := .map w.maps.length, event := none } after ∧ after.Reachable ∧
      w.Merged first second ((w.graph first).withCopy (w.graph second)) w.maps.length
        (handleOf (w.graph first).nextNode (w.graph second).nodes) after := by
  have other := reached.wellFormed second
  have made := disjointUnion_completes (Graph.disjointUnion_run (g := w.graph first) other)
  refine ⟨_, made, reached.ran made trivial, ?_⟩
  apply merged_recorded_new apart held
  · rw [Table.keys, Graph.keys_zip_handlesFrom]
    exact other.nodes_nodup
  · intro node inside
    rw [Table.get?, lookup_zip_handlesFrom]
    exact if_pos inside

/-- A join under a correspondence whose values are nodes of the first graph leaves the join. -/
theorem join_leaves (reached : w.Reachable) (apart : first ≠ second)
    (held : first < w.graphs.length) (bound : w.isBoundTo m second = true)
    (valid : (w.map m).values.PointsInto (w.graph second) (w.graph first)) :
    ∃ event after joined,
      run (.join first second m) w = .ok { answer := .map m, event := some event } after ∧
      after.Reachable ∧
      w.Merged first second joined m
        ((w.map m).values.placeFrom (w.graph first).nextNode (w.graph second).nodes) after ∧
      Graph.Joins (w.graph first) (w.graph second) (w.map m).values
        ((w.map m).values.placeFrom (w.graph first).nextNode (w.graph second).nodes) joined := by
  have other := reached.wellFormed second
  obtain ⟨images, event, joined, ran, keys, places, joins⟩ :=
    Graph.join_joins (reached.wellFormed first) other valid
  have made := join_command apart bound ran
  exact ⟨event, _, joined, made, reached.ran made trivial,
    merged_recorded apart held bound joined (keys ▸ other.nodes_nodup) places, joins⟩

/-- A union under identifications with nodes of the first graph, or under none, leaves the thinned
union. -/
theorem union_leaves (reached : w.Reachable) {map : Option MapId} (apart : first ≠ second)
    (held : first < w.graphs.length) (bound : ∀ m, map = some m → w.isBoundTo m second = true)
    (valid : ∀ m, map = some m →
      (w.map m).values.PointsInto (w.graph second) (w.graph first)) (policy : UnionPolicy) :
    ∃ id event after,
      run (.union first second map policy) w =
        .ok { answer := .map id, event := some event } after ∧
      id = map.getD w.maps.length ∧ after.Reachable ∧
      w.Merged first second
        (Graph.thinned policy (Graph.united (w.graph first) (w.graph second) (w.presetOf map))) id
        ((w.presetOf map).unionPlace (w.graph first).nextNode (w.graph second)) after := by
  have other := reached.wellFormed second
  have points := presetOf_pointsInto valid
  have ran := Graph.union_run (reached.wellFormed first) other points policy
  have distinct := Assignment.keys_unionImages_nodup (w.presetOf map) other (w.graph first).nextNode
  have found : ∀ node ∈ (w.graph second).nodes,
      ((w.presetOf map).unionImages (w.graph first).nextNode (w.graph second)).get? node =
        some ((w.presetOf map).unionPlace (w.graph first).nextNode (w.graph second) node) :=
    fun _ inside => Assignment.get?_unionImages points _ inside
  cases map with
  | some m =>
    have made := union_completes (bound m rfl) ran
    exact ⟨m, _, _, made, rfl, reached.ran made trivial,
      merged_recorded apart held (bound m rfl) _ distinct found⟩
  | none =>
    have made := union_new_completes ran
    exact ⟨w.maps.length, _, _, made, rfl, reached.ran made trivial,
      merged_recorded_new apart held _ distinct found⟩

end Multigraph.Workspace
