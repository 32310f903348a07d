import Mathlib.Data.List.Dedup
import Multigraph.Proofs.Operation.Command

/-!
What is left of a graph when parallel edges have gone (`Thins`). An edge is kept unless an edge with
a lesser handle is parallel to it, so of every pair of nodes that edges join one edge is left, and
the removed edges are those beyond the number of pairs (`thins_firsts`). The first edge of an
unordered pair is also the first of its ordered pair; so it makes no difference whether parallel
edges of one direction have been removed before the others (`firsts_firsts`).
-/
namespace Multigraph

namespace Graph

variable {g : Graph} {directed : Bool}

/-! ## Pairs -/

/-- The number of pairs of nodes that edges join: ordered pairs if direction counts, and unordered
ones otherwise. -/
def pairsJoined (directed : Bool) (g : Graph) : Nat :=
  if directed then (g.edges.map Edge.ends).dedup.length else (g.edges.map Edge.pair).dedup.length

/-- No two of the first edges are in one bundle. -/
theorem repeated_firsts (directed : Bool) (seen : List (NodeId × NodeId)) (edges : List Edge) :
    repeated directed seen (firsts directed seen edges) = [] := by
  induction edges generalizing seen with
  | nil => rfl
  | cons e rest ih =>
    rw [firsts_cons]
    split
    · exact ih seen
    · rename_i new
      rw [repeated, if_neg new]
      exact ih _

/-- Where a key tells the bundles apart, the first edges have the keys of all edges, each once. -/
theorem length_firsts_of_key {κ : Type} [DecidableEq κ] {key : Edge → κ}
    (tells : ∀ d e : Edge, key d = key e ↔ d.Parallel directed e) (edges : List Edge) :
    (firsts directed [] edges).length = (edges.map key).dedup.length := by
  have once : ((firsts directed [] edges).map key).Nodup := by
    have bundles := ((repeated_eq_nil_iff directed [] _).mp (repeated_firsts directed [] edges)).1
    apply List.pairwise_map.mpr
    refine (List.pairwise_map.mp bundles).imp fun {d e} apart same => apart ?_
    exact Edge.bundle_eq_iff.mpr ((tells d e).mp same)
  rw [← List.length_map key]
  apply List.Perm.length_eq
  apply (List.perm_ext_iff_of_nodup once (List.nodup_dedup _)).mpr
  intro k
  rw [List.mem_dedup, List.mem_map, List.mem_map]
  constructor
  · rintro ⟨e, kept, rfl⟩
    exact ⟨e, (firsts_sublist directed [] edges).subset kept, rfl⟩
  · rintro ⟨e, member, rfl⟩
    obtain ⟨d, kept, parallel⟩ := exists_mem_firsts directed member
    exact ⟨d, kept, (tells d e).mpr parallel⟩

/-- There are as many first edges as pairs that edges join. -/
theorem length_firsts (directed : Bool) (g : Graph) :
    (firsts directed [] g.edges).length = g.pairsJoined directed := by
  cases directed with
  | true => exact length_firsts_of_key (fun _ _ => Iff.rfl) g.edges
  | false => exact length_firsts_of_key (fun _ _ => Iff.rfl) g.edges

/-- The first edges are those to which no edge with a lesser handle is parallel. -/
theorem mem_firsts_iff_earlier (wf : g.WellFormed) {e : Edge} :
    e ∈ firsts directed [] g.edges ↔
      e ∈ g.edges ∧ ∀ d ∈ g.edges, d.id < e.id → ¬ d.Parallel directed e := by
  rw [mem_firsts_iff_find?, find?_eq_some_iff_least wf.edges_increasing]
  simp only [List.not_mem_nil, not_false_eq_true, true_and, decide_true, decide_eq_true_eq,
    Edge.bundle_eq_iff]
  refine and_congr_right fun _ => forall₂_congr fun d _ => ?_
  rw [← Int.not_lt, imp_not_comm]

/-! ## What is left -/

/-- What it is for the parallel edges to have gone from a graph, `count` of them. -/
structure Thins (directed : Bool) (before : Graph) (count : Nat) (after : Graph) : Prop where
  nodes_eq : after.nodes = before.nodes
  nextNode_eq : after.nextNode = before.nextNode
  nextEdge_eq : after.nextEdge = before.nextEdge
  /-- The edges that are left have their handles and their directions, and stand in their order. -/
  edges_sublist : after.edges.Sublist before.edges
  kept_iff : ∀ e ∈ before.edges,
    e ∈ after.edges ↔ ∀ d ∈ before.edges, d.id < e.id → ¬ d.Parallel directed e
  adjacent_eq : ∀ u v, after.adjacent u v = before.adjacent u v
  /-- If direction counts, a node also leads to the same nodes as before. -/
  leads_iff : directed = true → ∀ u v, 0 < after.multiplicity u v ↔ 0 < before.multiplicity u v
  count_eq : count = before.parallelCount directed
  pairs_add : before.pairsJoined directed + count = before.edgeCount
  free : after.isParallelFree directed = true
  free_iff : before.isParallelFree directed = true ↔ count = 0

theorem isParallelFree_iff_count (directed : Bool) (g : Graph) :
    g.isParallelFree directed = true ↔ g.parallelCount directed = 0 := by
  rw [isParallelFree, parallelCount, List.isEmpty_iff, List.length_eq_zero_iff]

/-- The graph without its parallel edges. -/
def withoutParallel (directed : Bool) (g : Graph) : Graph :=
  { g with edges := firsts directed [] g.edges }

/-- Removing parallel edges of one direction leaves every node leading where it led. -/
theorem leads_withoutParallel (g : Graph) (u v : NodeId) :
    0 < (g.withoutParallel true).multiplicity u v ↔ 0 < g.multiplicity u v := by
  rw [multiplicity, multiplicity, List.countP_pos_iff, List.countP_pos_iff]
  constructor
  · rintro ⟨e, kept, running⟩
    exact ⟨e, (firsts_sublist true [] g.edges).subset kept, running⟩
  · rintro ⟨e, member, running⟩
    obtain ⟨d, kept, parallel⟩ := exists_mem_firsts true member
    have same : d.ends = e.ends := parallel
    exact ⟨d, kept, by rwa [Edge.runs_eq, same, ← Edge.runs_eq]⟩

theorem isParallelFree_withoutParallel (directed : Bool) (g : Graph) :
    (g.withoutParallel directed).isParallelFree directed = true :=
  List.isEmpty_iff.mpr (repeated_firsts directed [] g.edges)

theorem thins_withoutParallel (wf : g.WellFormed) (directed : Bool) :
    Thins directed g (g.parallelCount directed) (g.withoutParallel directed) where
  nodes_eq := rfl
  nextNode_eq := rfl
  nextEdge_eq := rfl
  edges_sublist := firsts_sublist directed [] g.edges
  kept_iff e member := (mem_firsts_iff_earlier wf).trans (and_iff_right member)
  adjacent_eq := adjacent_firsts directed g
  leads_iff wanted := by
    subst wanted
    exact leads_withoutParallel g
  count_eq := rfl
  pairs_add := by
    rw [← length_firsts]
    exact length_firsts_add_repeated directed [] g.edges
  free := isParallelFree_withoutParallel directed g
  free_iff := isParallelFree_iff_count directed g

/-! ## One direction before the other -/

/-- The first edges without regard to direction are found among those with regard to it: where
all ordered pairs seen so far have been seen as unordered ones, the edges that are passed over would
be passed over anyway. -/
theorem firsts_firsts {edges : List Edge} {seen seen' : List (NodeId × NodeId)}
    (known : ∀ e ∈ edges, e.bundle true ∈ seen → e.bundle false ∈ seen') :
    firsts false seen' (firsts true seen edges) = firsts false seen' edges := by
  induction edges generalizing seen seen' with
  | nil => rfl
  | cons e rest ih =>
    obtain ⟨here, later⟩ := List.forall_mem_cons.mp known
    have onward : ∀ f ∈ rest, f.bundle true ∈ e.bundle true :: seen →
        f.bundle false = e.bundle false ∨ f.bundle false ∈ seen' := by
      intro f member listed
      rcases List.mem_cons.mp listed with same | earlier
      · have parallel : f.Parallel true e := Edge.bundle_eq_iff.mp same
        exact .inl (Edge.bundle_eq_iff_pair.mpr parallel.pair_eq)
      · exact .inr (later f member earlier)
    rw [firsts_cons true, firsts_cons false seen' e rest]
    split
    · rename_i passed
      rw [if_pos (here passed)]
      exact ih later
    · rw [firsts_cons]
      split
      · rename_i passed
        exact ih fun f member listed => (onward f member listed).elim (fun same => same ▸ passed) id
      · refine congrArg (e :: ·) (ih fun f member listed => ?_)
        exact List.mem_cons.mpr (onward f member listed)

/-- Where no edges are parallel without regard to direction, none are with regard to it. -/
theorem isParallelFree_directed (free : g.isParallelFree false = true) :
    g.isParallelFree true = true := by
  rw [isParallelFree, parallelEdges, List.isEmpty_iff, repeated_eq_nil_iff] at free ⊢
  refine ⟨?_, fun _ _ => List.not_mem_nil⟩
  apply List.pairwise_map.mpr
  refine (List.pairwise_map.mp free.1).imp fun {d e} apart same => apart ?_
  have parallel : d.Parallel true e := Edge.bundle_eq_iff.mp same
  exact Edge.bundle_eq_iff_pair.mpr parallel.pair_eq

/-- Removing the parallel edges of one direction first makes no difference to what is left. -/
theorem withoutParallel_twice (g : Graph) :
    (g.withoutParallel true).withoutParallel false = g.withoutParallel false := by
  have same : firsts false [] (firsts true [] g.edges) = firsts false [] g.edges :=
    firsts_firsts fun _ _ listed => absurd listed List.not_mem_nil
  rw [withoutParallel, withoutParallel, same]
  rfl

/-- Nothing goes where no edges are parallel. -/
theorem withoutParallel_of_free (distinct : (g.edges.map Edge.id).Nodup)
    (free : g.isParallelFree directed = true) : g.withoutParallel directed = g := by
  rw [withoutParallel, firsts_of_isParallelFree distinct free]

/-- Each parallel edge is removed once, in whichever of the two removals. -/
theorem parallelCount_add (g : Graph) :
    g.parallelCount true + (g.withoutParallel true).parallelCount false =
      g.parallelCount false := by
  have one := length_firsts_add_repeated true [] g.edges
  have others := length_firsts_add_repeated false [] (g.withoutParallel true).edges
  have all := length_firsts_add_repeated false [] g.edges
  have same := congrArg (fun h : Graph => h.edges.length) (withoutParallel_twice g)
  simp only [withoutParallel] at same others
  simp only [parallelCount, parallelEdges, withoutParallel]
  omega

end Graph

namespace Workspace

variable {w : Workspace} {id : GraphId}

/-- In every workspace that commands lead to, the removal of parallel edges of one direction and the
removal of all parallel edges both succeed, thin the graph and touch nothing else. The second after
the first leaves the same as the second alone, and their numbers add up to its number; the first
after the second removes nothing. -/
theorem parallel_removal_exact (reached : w.Reachable) (held : id < w.graphs.length) :
    ∃ thin thinner : Workspace, ∃ one others all : Nat,
      run (.removeParallel id true) w = .ok { answer := .count one } thin ∧
      Graph.Thins true (w.graph id) one (thin.graph id) ∧ w.Replaced id (thin.graph id) thin ∧
      run (.removeParallel id false) w = .ok { answer := .count all } thinner ∧
      Graph.Thins false (w.graph id) all (thinner.graph id) ∧
      w.Replaced id (thinner.graph id) thinner ∧
      run (.removeParallel id false) thin = .ok { answer := .count others } thinner ∧
      one + others = all ∧
      run (.removeParallel id true) thinner = .ok { answer := .count 0 } thinner := by
  have wf := reached.wellFormed id
  have ran : ∀ directed, run (.removeParallel id directed) w =
      .ok { answer := .count ((w.graph id).parallelCount directed) }
        (w.setGraph id ((w.graph id).withoutParallel directed)) :=
    fun directed => removeParallel_completes reached id directed
  have replaced : ∀ directed, w.Replaced id ((w.graph id).withoutParallel directed)
      (w.setGraph id ((w.graph id).withoutParallel directed)) :=
    fun directed => setGraph_replaced held _
  have there : ∀ directed, (w.setGraph id ((w.graph id).withoutParallel directed)).graph id =
      (w.graph id).withoutParallel directed := fun directed => (replaced directed).graph_eq
  -- A removal that follows another finds what that one has left.
  have again : ∀ earlier later,
      run (.removeParallel id later) (w.setGraph id ((w.graph id).withoutParallel earlier)) =
        .ok { answer := .count (((w.graph id).withoutParallel earlier).parallelCount later) }
          (w.setGraph id (((w.graph id).withoutParallel earlier).withoutParallel later)) := by
    intro earlier later
    have ran' := removeParallel_completes (reached.ran (ran earlier) trivial) id later
    rw [there, setGraph_setGraph] at ran'
    exact ran'
  refine ⟨_, _, _, _, _, ran true, ?_, ?_, ran false, ?_, ?_, ?_,
    Graph.parallelCount_add (w.graph id), ?_⟩
  · rw [there]
    exact Graph.thins_withoutParallel wf true
  · rw [there]
    exact replaced true
  · rw [there]
    exact Graph.thins_withoutParallel wf false
  · rw [there]
    exact replaced false
  · rw [again, Graph.withoutParallel_twice]
  · have free := Graph.isParallelFree_directed
      (Graph.isParallelFree_withoutParallel false (w.graph id))
    have thinner := Graph.thins_withoutParallel wf false
    have distinct := wf.ids_nodup.sublist (thinner.edges_sublist.map Edge.id)
    rw [again, Graph.withoutParallel_of_free distinct free,
      (Graph.isParallelFree_iff_count true _).mp free]

/-- Edges between two nodes in both directions and loops at a third, of which the earliest has been
deleted. -/
def bundled : List Command :=
  [.newGraph, .newNode 0, .newNode 0, .newNode 0, .newEdge 0 0 1, .newEdge 0 1 0, .newEdge 0 0 1,
    .newEdge 0 2 2, .newEdge 0 2 2, .newEdge 0 1 0, .deleteEdge 0 0]

theorem parallel_removal_exact_bundled :
    Reachable (runAll {} bundled) ∧ 0 < (runAll {} bundled).graphs.length ∧
    ∃ thin thinner : Workspace,
      run (.removeParallel 0 true) (runAll {} bundled) = .ok { answer := .count 2 } thin ∧
      run (.removeParallel 0 false) (runAll {} bundled) = .ok { answer := .count 3 } thinner ∧
      run (.removeParallel 0 false) thin = .ok { answer := .count 1 } thinner ∧
      run (.removeParallel 0 true) thinner = .ok { answer := .count 0 } thinner ∧
      ⟨2, 0, 1⟩ ∈ (thin.graph 0).edges ∧ ⟨2, 0, 1⟩ ∉ (thinner.graph 0).edges := by
  have reached : Reachable (runAll {} bundled) :=
    reachable_runAll .empty (by simp [bundled, Command.Proper])
  have held : 0 < (runAll {} bundled).graphs.length := by decide +kernel
  have edges : ((runAll {} bundled).graph 0).edges =
      [⟨1, 1, 0⟩, ⟨2, 0, 1⟩, ⟨3, 2, 2⟩, ⟨4, 2, 2⟩, ⟨5, 1, 0⟩] := by decide +kernel
  obtain ⟨thin, thinner, one, others, all, ran, thins, _, ran', thins', _, onward, sum, idle⟩ :=
    parallel_removal_exact reached held
  obtain rfl : one = 2 := thins.count_eq.trans (by decide +kernel)
  obtain rfl : all = 3 := thins'.count_eq.trans (by decide +kernel)
  obtain rfl : others = 1 := by omega
  have listed : ⟨2, 0, 1⟩ ∈ ((runAll {} bundled).graph 0).edges := by simp [edges]
  refine ⟨reached, held, thin, thinner, ran, ran', onward, idle, ?_, fun kept => ?_⟩
  · apply (thins.kept_iff _ listed).mpr
    rw [edges]
    decide
  · exact (thins'.kept_iff _ listed).mp kept ⟨1, 1, 0⟩ (by simp [edges]) (by decide) Sym2.eq_swap

end Workspace

end Multigraph
