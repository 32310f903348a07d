import Multigraph.Proofs.Operation.Command
import Multigraph.Proofs.Product.Basic

/-!
Several products in a row. A product needs a destination that is no factor. If more products are to
follow, their destinations and their grids have to be apart from everything that is still in use,
and from each other: `Room` says that a workspace has such places. A product in the first of them
succeeds, retains what is in use and leaves room in the others (`Room.run_product`); a copy, a
complement and a disjoint union leave all of it (`Room.run_copy`, `Room.run_complement`,
`Room.run_disjointUnion`).
-/
namespace Multigraph

open Multigraph.Action Multigraph.Graph

/-- Where a product is put: a graph, and a grid unless a new one is wanted. -/
structure Place where
  destination : GraphId
  grid : Option GridId := none
  deriving DecidableEq

namespace Product

/-- What is asked for is a product of the kind that is named. -/
theorem of_ofRequest {kind : Datum} {root : Option NodeId} {product : Product}
    (asked : ofRequest kind root = .ok product) :
    ∃ named, ProductKind.ofDatum? kind = some named ∧ ofKind named root = .ok product := by
  unfold ofRequest at asked
  cases found : ProductKind.ofDatum? kind with
  | some named =>
    rw [found] at asked
    exact ⟨named, rfl, asked⟩
  | none =>
    rw [found] at asked
    cases asked

/-- A product that is asked for without a root has none. -/
theorem requireRoot_of_rootless {kind : Datum} {product : Product}
    (asked : ofRequest kind none = .ok product) (second : Graph) :
    product.requireRoot second = .ok () := by
  obtain ⟨named, _, chosen⟩ := of_ofRequest asked
  cases named <;> cases chosen <;> rfl

end Product

namespace Workspace

/-- Some graphs and grids are the same in a later workspace. -/
structure Retains (w : Workspace) (graphs : List GraphId) (grids : List GridId)
    (after : Workspace) : Prop where
  graph_eq : ∀ id ∈ graphs, after.graph id = w.graph id
  grid_eq : ∀ id ∈ grids, after.grid id = w.grid id

/-- Beside graphs and grids in use there are places for products, to be used one after the other. -/
structure Vacant (w : Workspace) (graphs : List GraphId) (grids : List GridId)
    (places : List Place) : Prop where
  graphs_held : ∀ id ∈ graphs, id < w.graphs.length
  grids_held : ∀ id ∈ grids, id < w.grids.length
  destinations_held : ∀ place ∈ places, place.destination < w.graphs.length
  destinations_apart : ∀ place ∈ places, place.destination ∉ graphs
  given_held : ∀ place ∈ places, ∀ id ∈ place.grid, id < w.grids.length
  given_apart : ∀ place ∈ places, ∀ id ∈ place.grid, id ∉ grids
  distinct : places.Pairwise fun p q =>
    p.destination ≠ q.destination ∧ ∀ id ∈ p.grid, id ∉ q.grid

instance (w : Workspace) (graphs : List GraphId) (grids : List GridId) (places : List Place) :
    Decidable (w.Vacant graphs grids places) :=
  decidable_of_iff
    ((∀ id ∈ graphs, id < w.graphs.length) ∧ (∀ id ∈ grids, id < w.grids.length) ∧
      (∀ place ∈ places, place.destination < w.graphs.length ∧ place.destination ∉ graphs ∧
        (∀ id ∈ place.grid, id < w.grids.length ∧ id ∉ grids)) ∧
      places.Pairwise fun p q => p.destination ≠ q.destination ∧ ∀ id ∈ p.grid, id ∉ q.grid)
    ⟨fun ⟨held, held', free, distinct⟩ => ⟨held, held', fun q listed => (free q listed).1,
        fun q listed => (free q listed).2.1, fun q listed id given => ((free q listed).2.2 id given).1,
        fun q listed id given => ((free q listed).2.2 id given).2, distinct⟩,
      fun vacant => ⟨vacant.graphs_held, vacant.grids_held, fun q listed =>
        ⟨vacant.destinations_held q listed, vacant.destinations_apart q listed, fun id given =>
          ⟨vacant.given_held q listed id given, vacant.given_apart q listed id given⟩⟩,
        vacant.distinct⟩⟩

/-- A workspace that commands lead to, with places for products. -/
structure Room (w : Workspace) (graphs : List GraphId) (grids : List GridId)
    (places : List Place) : Prop extends w.Vacant graphs grids places where
  reached : w.Reachable

variable {u v w : Workspace} {graphs : List GraphId} {grids : List GridId} {place : Place}
  {places : List Place}

theorem Retains.trans {more : List GraphId} {others : List GridId}
    (earlier : u.Retains graphs grids v) (later : v.Retains more others w)
    (inside : graphs ⊆ more) (inside' : grids ⊆ others) : u.Retains graphs grids w where
  graph_eq id used := (later.graph_eq id (inside used)).trans (earlier.graph_eq id used)
  grid_eq id used := (later.grid_eq id (inside' used)).trans (earlier.grid_eq id used)

/-! ## What a product leaves alone -/

variable {kind : Datum} {root : Option NodeId} {product : Product}
  {first second destination : GraphId}

/-- Once it has its grid a product changes no other and adds none. -/
theorem grids_of_build {id : GridId} {reply : Reply}
    (ran : fillGrid kind root first second destination id v = .ok reply w) :
    reply.answer = .grid id ∧ w.graphs.length = v.graphs.length ∧
      w.grids.length = v.grids.length ∧ ∀ other, other ≠ id → w.grid other = v.grid other := by
  obtain ⟨_, _, got, rest⟩ := of_bind_ok ran
  cases got
  obtain ⟨_, _, built, last⟩ := of_bind_ok rest
  cases last
  obtain ⟨build, _, rfl⟩ := of_within_ok built
  refine ⟨rfl, List.length_set, List.length_set, fun other apart => ?_⟩
  simp only [grid, setGrid, setGraph, List.getD_eq_getElem?_getD,
    List.getElem?_set_ne (Ne.symm apart)]

/-- A product that succeeds answers the grid it was given, or else a new one, and changes no other
grid. -/
theorem grids_of_product {given : Option GridId} {id : GridId} {event : Option Event}
    (ran : Workspace.product kind root first second destination given w =
      .ok { answer := .grid id, event := event } v) :
    v.graphs.length = w.graphs.length ∧
      (given = some id ∧ v.grids.length = w.grids.length ∨
        given = none ∧ id = w.grids.length ∧ v.grids.length = w.grids.length + 1) ∧
      ∀ other < w.grids.length, other ≠ id → v.grid other = w.grid other := by
  cases given with
  | some given =>
    obtain ⟨answer, graphs, length, others⟩ := grids_of_build ran
    cases answer
    exact ⟨graphs, .inl ⟨rfl, length⟩, fun other _ apart => others other apart⟩
  | none =>
    obtain ⟨_, _, added, rest⟩ := of_bind_ok ran
    cases added
    obtain ⟨answer, graphs, length, others⟩ := grids_of_build rest
    cases answer
    refine ⟨graphs, .inr ⟨rfl, rfl, ?_⟩, fun other earlier apart => ?_⟩
    · rw [length, List.length_append, List.length_singleton]
    · rw [others other apart]
      simp only [grid, List.getD_eq_getElem?_getD, List.getElem?_append_left earlier]

/-! ## One command more -/

/-- A product in the first place succeeds, and leaves room in the other places. -/
theorem Room.run_product (room : w.Room graphs grids (place :: places)) (first second : GraphId)
    (factor : first ∈ graphs) (cofactor : second ∈ graphs)
    (asked : Product.ofRequest kind root = .ok product)
    (rooted : product.requireRoot (w.graph second) = .ok ()) :
    ∃ event after id,
      run (.product kind root first second place.destination place.grid) w =
        .ok { answer := .grid id, event := some event } after ∧
      after.Room (place.destination :: graphs) (id :: grids) places ∧
      product.Built (w.graph first) (w.graph second) (w.graph place.destination)
        (after.graph place.destination) (after.grid id) ∧
      w.Retains graphs grids after := by
  obtain ⟨held, helds⟩ := List.forall_mem_cons.mp room.destinations_held
  obtain ⟨apart, aparts⟩ := List.forall_mem_cons.mp room.destinations_apart
  obtain ⟨present, presents⟩ := List.forall_mem_cons.mp room.given_held
  obtain ⟨unused, unuseds⟩ := List.forall_mem_cons.mp room.given_apart
  obtain ⟨ahead, distinct⟩ := List.pairwise_cons.mp room.distinct
  have away : ∀ {other}, other ∈ graphs → place.destination ≠ other := fun used same =>
    apart (same ▸ used)
  obtain ⟨event, after, id, ran, built, _, others⟩ :=
    product_run room.reached asked rooted (away factor) (away cofactor) held present
  obtain ⟨length, chosen, kept⟩ := grids_of_product ran
  have le : w.grids.length ≤ after.grids.length := by omega
  have new : id ∉ grids := by
    rcases chosen with ⟨given, _⟩ | ⟨_, fresh, _⟩
    · exact unused id given
    · exact fun used => Nat.ne_of_lt (room.grids_held id used) fresh
  have there : id < after.grids.length := by
    rcases chosen with ⟨given, _⟩ | ⟨_, fresh, longer⟩
    · exact Nat.lt_of_lt_of_le (present id given) le
    · rw [fresh, longer]
      exact Nat.lt_succ_self _
  refine ⟨event, after, id, ran, ⟨⟨?_, ?_, ?_, ?_, ?_, ?_, distinct⟩, room.reached.ran ran trivial⟩,
    built, ⟨?_, ?_⟩⟩
  · rw [length]
    exact List.forall_mem_cons.mpr ⟨held, room.graphs_held⟩
  · refine List.forall_mem_cons.mpr ⟨there, fun other used => ?_⟩
    exact Nat.lt_of_lt_of_le (room.grids_held other used) le
  · rw [length]
    exact helds
  · intro q later used
    rcases List.mem_cons.mp used with same | used
    · exact (ahead q later).1 same.symm
    · exact aparts q later used
  · exact fun q later other given => Nat.lt_of_lt_of_le (presents q later other given) le
  -- A grid given for a later product is not the one just filled: either both were given, or the
  -- filled one is new.
  · intro q later other given used
    rcases List.mem_cons.mp used with rfl | used
    · rcases chosen with ⟨own, _⟩ | ⟨_, fresh, _⟩
      · exact (ahead q later).2 other own given
      · exact Nat.ne_of_lt (presents q later other given) fresh
    · exact unuseds q later other given used
  · exact fun other used => others other (Ne.symm (away used))
  · exact fun other used => kept other (room.grids_held other used) fun same => new (same ▸ used)

/-- A copy is a new graph, and leaves all room. -/
theorem Room.run_copy (room : w.Room graphs grids places) (g : GraphId) :
    ∃ after, run (.copy g) w = .ok { answer := .graph w.graphs.length, event := none } after ∧
      after.Room (w.graphs.length :: graphs) grids places ∧
      after.graph w.graphs.length = w.graph g ∧ w.Retains graphs grids after := by
  obtain ⟨after, made⟩ : ∃ after : Workspace, after =
    { w with graphs := w.graphs ++ [w.graph g] } := ⟨_, rfl⟩
  have ran : run (.copy g) w =
      .ok { answer := .graph w.graphs.length, event := none } after := by
    rw [made]
    exact copy_command w g
  have graph_eq : ∀ id, after.graph id = if id = w.graphs.length then w.graph g else w.graph id :=
    fun id => made ▸ graph_append w (w.graph g) id
  have grids_eq : after.grids = w.grids := by rw [made]
  have longer : after.graphs.length = w.graphs.length + 1 := by
    rw [made, List.length_append, List.length_singleton]
  have still : ∀ {id}, id < w.graphs.length → id < after.graphs.length := fun earlier =>
    longer ▸ Nat.lt_succ_of_lt earlier
  refine ⟨after, ran, ⟨⟨?_, ?_, ?_, ?_, ?_, room.given_apart, room.distinct⟩,
    room.reached.ran ran trivial⟩, ?_, ⟨?_, ?_⟩⟩
  · refine List.forall_mem_cons.mpr ⟨longer ▸ Nat.lt_succ_self _, fun id used => ?_⟩
    exact still (room.graphs_held id used)
  · rw [grids_eq]
    exact room.grids_held
  · exact fun q listed => still (room.destinations_held q listed)
  · intro q listed used
    rcases List.mem_cons.mp used with same | used
    · exact Nat.ne_of_lt (room.destinations_held q listed) same
    · exact room.destinations_apart q listed used
  · rw [grids_eq]
    exact room.given_held
  · rw [graph_eq, if_pos rfl]
  · intro id used
    rw [graph_eq, if_neg (Nat.ne_of_lt (room.graphs_held id used))]
  · intro id _
    rw [grid, grids_eq, grid]

/-- A command that adds no graph and leaves the grids alone leaves all room. -/
theorem Room.kept (room : w.Room graphs grids places) (reached : v.Reachable)
    (length : v.graphs.length = w.graphs.length) (grids_eq : v.grids = w.grids) :
    v.Room graphs grids places := by
  refine ⟨⟨?_, ?_, ?_, room.destinations_apart, ?_, room.given_apart, room.distinct⟩, reached⟩
  · rw [length]
    exact room.graphs_held
  · rw [grids_eq]
    exact room.grids_held
  · rw [length]
    exact room.destinations_held
  · rw [grids_eq]
    exact room.given_held

/-- A command that changes one graph and leaves the grids alone retains all others. -/
theorem retains_others {id : GraphId} (new : id ∉ graphs)
    (others : ∀ other, other ≠ id → v.graph other = w.graph other) (grids_eq : v.grids = w.grids) :
    w.Retains graphs grids v where
  graph_eq other used := others other fun same => new (same ▸ used)
  grid_eq other _ := by rw [grid, grids_eq, grid]

/-- A complement of a graph in use leaves all room. -/
theorem Room.run_complement {id : GraphId} (room : w.Room (id :: graphs) grids places)
    (new : id ∉ graphs) (policy : ComplementPolicy) :
    ∃ event after, run (.complement id policy) w =
        .ok { answer := .done, event := some event } after ∧
      after.Room (id :: graphs) grids places ∧
      after.graph id = Graph.complemented policy (w.graph id) ∧ w.Retains graphs grids after := by
  obtain ⟨event, after, ran, reached, replaced⟩ :=
    complement_command room.reached (room.graphs_held id List.mem_cons_self) policy
  exact ⟨event, after, ran, room.kept reached replaced.length_eq replaced.grids_eq,
    replaced.graph_eq, retains_others new replaced.others replaced.grids_eq⟩

/-- A disjoint union of graphs in use leaves all room, and a correspondence that reads the copies. -/
theorem Room.run_disjointUnion {id : GraphId} (room : w.Room (id :: graphs) grids places)
    (new : id ∉ graphs) (used : second ∈ graphs) :
    ∃ after m, run (.disjointUnion id second) w = .ok { answer := .map m, event := none } after ∧
      after.Room (id :: graphs) grids places ∧
      after.graph id = (w.graph id).withCopy (w.graph second) ∧
      (∀ node ∈ (w.graph second).nodes, after.readKey m node =
        .ok (some (.int (handleOf (w.graph id).nextNode (w.graph second).nodes node)))) ∧
      w.Retains graphs grids after := by
  have apart : id ≠ second := fun same => new (same ▸ used)
  obtain ⟨after, ran, reached, merged⟩ :=
    disjointUnion_leaves room.reached apart (room.graphs_held id List.mem_cons_self)
  exact ⟨after, _, ran, room.kept reached merged.length_eq merged.grids_eq, merged.graph_eq,
    merged.reads, retains_others new merged.others merged.grids_eq⟩

end Workspace

end Multigraph
