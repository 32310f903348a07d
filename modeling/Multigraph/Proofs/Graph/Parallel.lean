import Mathlib.Data.Sym.Sym2
import Multigraph.Proofs.Graph.Deleting
import Multigraph.Proofs.Graph.Drawing

/-!
What the removal of parallel edges leaves: the first edge of every bundle and nothing else
(`removeParallel_run`), that is, the edges to which no earlier edge is parallel (`mem_firsts_iff`).
So every pair of ends that had an edge has exactly one (`countP_firsts`). A pair that does not
regard direction is an unordered pair.
-/
namespace Multigraph

namespace Edge

/-- The ends of an edge, whatever its direction. -/
def pair (e : Edge) : Sym2 NodeId := s(e.source, e.target)

theorem bundle_directed (e : Edge) : e.bundle true = (e.source, e.target) := by
  simp [bundle]

/-- An edge between two nodes in either direction is in the bundle of the lesser and the greater. -/
theorem bundle_undirected_iff {e : Edge} {u v : NodeId} (order : u ≤ v) :
    e.bundle false = (u, v) ↔ e.joins u v = true := by
  simp only [bundle, joins, runs, Bool.false_eq_true, false_or, Bool.or_eq_true,
    Bool.and_eq_true, decide_eq_true_eq]
  split
  · rw [Prod.mk.injEq]
    lia
  · rw [Prod.mk.injEq]
    lia

theorem joins_iff_pair {e : Edge} {u v : NodeId} : e.joins u v = true ↔ e.pair = s(u, v) := by
  simp only [joins, runs, pair, Sym2.eq_iff, Bool.or_eq_true, Bool.and_eq_true, decide_eq_true_eq]

/-- Without direction two edges are in one bundle when they have the same ends. -/
theorem bundle_eq_iff_pair {e f : Edge} : e.bundle false = f.bundle false ↔ e.pair = f.pair := by
  have lesser : ∀ f : Edge, (f.bundle false).1 ≤ (f.bundle false).2 := by
    intro f
    rw [bundle]
    split
    · rename_i order
      simpa using order
    · rename_i order
      simp only [Bool.false_eq_true, false_or] at order
      lia
  have own : f.joins (f.bundle false).1 (f.bundle false).2 = true :=
    (bundle_undirected_iff (lesser f)).mp rfl
  rw [← Prod.mk.eta (p := f.bundle false), bundle_undirected_iff (lesser f), joins_iff_pair,
    joins_iff_pair.mp own]

/-- Edges are parallel when they have the same ends, and also the same direction if it counts. -/
def Parallel (directed : Bool) (d e : Edge) : Prop :=
  if directed then d.ends = e.ends else d.pair = e.pair

instance (directed : Bool) (d e : Edge) : Decidable (d.Parallel directed e) :=
  inferInstanceAs (Decidable (if directed then d.ends = e.ends else d.pair = e.pair))

/-- Parallel edges join the same nodes. -/
theorem Parallel.pair_eq {directed : Bool} {d e : Edge} (parallel : d.Parallel directed e) :
    d.pair = e.pair := by
  cases directed with
  | true =>
    obtain ⟨source, target⟩ := Prod.mk.inj (show d.ends = e.ends from parallel)
    rw [pair, pair, source, target]
  | false => exact parallel

theorem bundle_eq_iff {directed : Bool} {d e : Edge} :
    d.bundle directed = e.bundle directed ↔ d.Parallel directed e := by
  cases directed with
  | true =>
    rw [bundle_directed, bundle_directed]
    exact Iff.rfl
  | false => exact bundle_eq_iff_pair

/-- Some edge joins a pair if the ends of some edge are that pair, in whatever order the ends are
listed. -/
theorem exists_pair_iff {edges : List Edge} {ends : List (NodeId × NodeId)}
    (listed : (edges.map Edge.ends).Perm ends) (pair : Sym2 NodeId) :
    (∃ e ∈ edges, e.pair = pair) ↔ ∃ x ∈ ends, s(x.1, x.2) = pair := by
  constructor
  · rintro ⟨e, member, same⟩
    exact ⟨e.ends, listed.subset (List.mem_map_of_mem member), same⟩
  · rintro ⟨x, member, same⟩
    obtain ⟨e, held, rfl⟩ := List.mem_map.mp (listed.symm.subset member)
    exact ⟨e, held, same⟩

end Edge

namespace Graph

/-- The edges of a list whose bundle was not seen before, in the list or ahead of it. -/
def firsts (directed : Bool) (seen : List (NodeId × NodeId)) : List Edge → List Edge
  | [] => []
  | e :: rest =>
    if seen.contains (e.bundle directed) then firsts directed seen rest
    else e :: firsts directed (e.bundle directed :: seen) rest

theorem firsts_cons (directed : Bool) (seen : List (NodeId × NodeId)) (e : Edge)
    (rest : List Edge) :
    firsts directed seen (e :: rest) =
      if e.bundle directed ∈ seen then firsts directed seen rest
      else e :: firsts directed (e.bundle directed :: seen) rest := by
  simp only [firsts, List.contains_iff_mem]

theorem firsts_sublist (directed : Bool) (seen : List (NodeId × NodeId)) (edges : List Edge) :
    (firsts directed seen edges).Sublist edges := by
  induction edges generalizing seen with
  | nil => exact .refl _
  | cons e rest ih =>
    rw [firsts_cons]
    split
    · exact (ih seen).cons e
    · exact (ih _).cons_cons e

/-- An edge is the first of its bundle when no earlier edge is parallel to it. -/
theorem mem_firsts_iff (directed : Bool) (seen : List (NodeId × NodeId)) {before rest : List Edge}
    {e : Edge} (distinct : ((before ++ e :: rest).map Edge.id).Nodup) :
    e ∈ firsts directed seen (before ++ e :: rest) ↔
      e.bundle directed ∉ seen ∧ ∀ d ∈ before, ¬ d.Parallel directed e := by
  induction before generalizing seen with
  | nil =>
    rw [List.nil_append] at distinct ⊢
    have new : e ∉ rest := fun listed =>
      (List.nodup_cons.mp distinct).1 (List.mem_map_of_mem listed)
    rw [firsts_cons]
    split
    · rename_i known
      have absent : e ∉ firsts directed seen rest := fun kept =>
        new ((firsts_sublist directed seen rest).subset kept)
      simp [known, absent]
    · rename_i unknown
      simp [unknown]
  | cons d before ih =>
    rw [List.cons_append, List.map_cons] at distinct
    obtain ⟨new, others⟩ := List.nodup_cons.mp distinct
    have apart : e ≠ d := by
      rintro rfl
      exact new (List.mem_map_of_mem (List.mem_append_right before List.mem_cons_self))
    rw [List.cons_append, firsts_cons, List.forall_mem_cons, ← Edge.bundle_eq_iff]
    split
    · rename_i known
      rw [ih seen others]
      constructor
      · rintro ⟨unseen, unmatched⟩
        exact ⟨unseen, fun same => unseen (same ▸ known), unmatched⟩
      · rintro ⟨unseen, _, unmatched⟩
        exact ⟨unseen, unmatched⟩
    · rw [List.mem_cons, or_iff_right apart, ih _ others, List.mem_cons, not_or]
      constructor
      · rintro ⟨⟨differs, unseen⟩, unmatched⟩
        exact ⟨unseen, Ne.symm differs, unmatched⟩
      · rintro ⟨unseen, differs, unmatched⟩
        exact ⟨⟨Ne.symm differs, unseen⟩, unmatched⟩

/-- The first edge of a bundle is the one that a search for the bundle finds. -/
theorem mem_firsts_iff_find? (directed : Bool) (seen : List (NodeId × NodeId)) {edges : List Edge}
    {e : Edge} :
    e ∈ firsts directed seen edges ↔ e.bundle directed ∉ seen ∧
      edges.find? (fun d => d.bundle directed = e.bundle directed) = some e := by
  induction edges generalizing seen with
  | nil => simp [firsts]
  | cons d rest ih =>
    rw [firsts_cons, List.find?_cons]
    by_cases same : d.bundle directed = e.bundle directed
    · rw [same, decide_eq_true rfl]
      split
      · rename_i known
        simp [ih, known]
      · rename_i unknown
        simp [ih, unknown, eq_comm]
    · have apart : e ≠ d := fun equal => same (equal ▸ rfl)
      rw [decide_eq_false same]
      split
      · exact ih seen
      · simp [ih, apart, Ne.symm same]

/-- The first edge of a pair is the one that a search for the pair finds. -/
theorem mem_firsts_pair_iff {edges : List Edge} {e : Edge} :
    e ∈ firsts false [] edges ↔ edges.find? (fun d => d.pair = e.pair) = some e := by
  simp only [mem_firsts_iff_find?, List.not_mem_nil, not_false_eq_true, true_and,
    Edge.bundle_eq_iff_pair]

theorem repeated_sublist (directed : Bool) (seen : List (NodeId × NodeId)) (edges : List Edge) :
    (repeated directed seen edges).Sublist edges := by
  induction edges generalizing seen with
  | nil => exact .refl _
  | cons e rest ih =>
    rw [repeated]
    split
    · exact (ih seen).cons_cons e
    · exact (ih _).cons e

/-- No edge is repeated when all bundles are distinct and none was seen before. -/
theorem repeated_eq_nil_iff (directed : Bool) (seen : List (NodeId × NodeId))
    (edges : List Edge) :
    repeated directed seen edges = [] ↔
      (edges.map fun e => e.bundle directed).Nodup ∧ ∀ e ∈ edges, e.bundle directed ∉ seen := by
  induction edges generalizing seen with
  | nil => simp [repeated]
  | cons e rest ih =>
    rw [repeated, List.map_cons, List.nodup_cons, List.forall_mem_cons]
    split
    · rename_i known
      simp [known]
    · rename_i unknown
      rw [ih]
      constructor
      · rintro ⟨distinct, unseen⟩
        refine ⟨⟨fun listed => ?_, distinct⟩, unknown, fun f member known => ?_⟩
        · obtain ⟨f, member, same⟩ := List.mem_map.mp listed
          exact unseen f member (same ▸ List.mem_cons_self)
        · exact unseen f member (List.mem_cons_of_mem _ known)
      · rintro ⟨⟨new, distinct⟩, _, unseen⟩
        refine ⟨distinct, fun f member known => ?_⟩
        rcases List.mem_cons.mp known with same | earlier
        · exact new (same ▸ List.mem_map_of_mem member)
        · exact unseen f member earlier

/-- The first edges of the bundles are those left when the repeated ones are taken away. -/
theorem filter_not_repeated {edges : List Edge} (distinct : (edges.map Edge.id).Nodup)
    (directed : Bool) (seen : List (NodeId × NodeId)) :
    (edges.filter fun e => e.id ∉ (repeated directed seen edges).map Edge.id) =
      firsts directed seen edges := by
  induction edges generalizing seen with
  | nil => rfl
  | cons e rest ih =>
    obtain ⟨new, others⟩ := List.nodup_cons.mp distinct
    rw [repeated, firsts_cons]
    split
    · have apart : ∀ f ∈ rest, f.id ≠ e.id := fun f member same =>
        new (same ▸ List.mem_map_of_mem member)
      rw [List.filter_cons_of_neg (by simp), ← ih others]
      refine List.filter_congr fun f member => ?_
      simp only [List.map_cons, List.mem_cons, apart f member, false_or]
    · have kept : e.id ∉ (repeated directed (e.bundle directed :: seen) rest).map Edge.id :=
        fun listed => new (((repeated_sublist directed _ rest).map Edge.id).subset listed)
      rw [List.filter_cons_of_pos (by simpa using kept), ih others]

/-- Every edge of a list is the first of its bundle or repeats it. -/
theorem length_firsts_add_repeated (directed : Bool) (seen : List (NodeId × NodeId))
    (edges : List Edge) :
    (firsts directed seen edges).length + (repeated directed seen edges).length =
      edges.length := by
  induction edges generalizing seen with
  | nil => rfl
  | cons e rest ih =>
    rw [firsts_cons, repeated, List.length_cons]
    split
    · rw [List.length_cons, ← ih seen]
      omega
    · rw [List.length_cons, ← ih (e.bundle directed :: seen)]
      omega

/-- Removing the parallel edges leaves the first edge of every bundle. -/
theorem removeParallel_run {g : Graph} (distinct : (g.edges.map Edge.id).Nodup) (directed : Bool) :
    removeParallel directed g =
      .ok (g.parallelCount directed) { g with edges := firsts directed [] g.edges } := by
  have doomed := repeated_sublist directed [] g.edges
  have deleted := deleteEdges_run (fun e member => doomed.subset member)
    (distinct.sublist (doomed.map Edge.id))
  rw [withoutEdges, filter_not_repeated distinct] at deleted
  exact Action.bind_of_ok deleted

/-- Nothing is removed where no edges are parallel. -/
theorem firsts_of_isParallelFree {g : Graph} {directed : Bool}
    (distinct : (g.edges.map Edge.id).Nodup)
    (free : g.isParallelFree directed = true) : firsts directed [] g.edges = g.edges := by
  have kept := filter_not_repeated distinct directed []
  rw [isParallelFree, List.isEmpty_iff, parallelEdges] at free
  simpa [free] using kept.symm

/-- A bundle that has edges has exactly one first edge, unless it was seen ahead of the list. -/
theorem countP_firsts (directed : Bool) (seen : List (NodeId × NodeId)) (edges : List Edge)
    (bundle : NodeId × NodeId) :
    (firsts directed seen edges).countP (fun e => e.bundle directed = bundle) =
      if bundle ∉ seen ∧ ∃ e ∈ edges, e.bundle directed = bundle then 1 else 0 := by
  induction edges generalizing seen with
  | nil => simp [firsts]
  | cons e rest ih =>
    rw [firsts_cons]
    split
    · rename_i known
      rw [ih]
      congr 1
      by_cases own : e.bundle directed = bundle
      · simp [own ▸ known]
      · simp [own]
    · rename_i unknown
      rw [List.countP_cons, ih]
      by_cases own : e.bundle directed = bundle
      · simp [own, own ▸ unknown]
      · simp [own, Ne.symm own]

/-- Every unordered pair that had an edge has exactly one among the first edges. -/
theorem countP_pair_firsts (edges : List Edge) (pair : Sym2 NodeId) :
    (firsts false [] edges).countP (fun e => e.pair = pair) =
      if ∃ e ∈ edges, e.pair = pair then 1 else 0 := by
  have ordered : ∃ u v : NodeId, u ≤ v ∧ pair = s(u, v) := by
    induction pair with | h u v =>
    rcases Int.le_total u v with order | order
    · exact ⟨u, v, order, rfl⟩
    · exact ⟨v, u, order, Sym2.eq_swap⟩
  obtain ⟨u, v, order, rfl⟩ := ordered
  have same : ∀ e : Edge, e.pair = s(u, v) ↔ e.bundle false = (u, v) := fun e =>
    Edge.joins_iff_pair.symm.trans (Edge.bundle_undirected_iff order).symm
  simp only [same, countP_firsts, List.not_mem_nil, not_false_eq_true, true_and]

/-- Every edge has a parallel one among the first edges, which may be the edge itself. -/
theorem exists_mem_firsts (directed : Bool) {edges : List Edge} {e : Edge} (member : e ∈ edges) :
    ∃ d ∈ firsts directed [] edges, d.Parallel directed e := by
  have once := countP_firsts directed [] edges (e.bundle directed)
  rw [if_pos ⟨List.not_mem_nil, e, member, rfl⟩] at once
  obtain ⟨d, kept, same⟩ := List.countP_pos_iff.mp (once ▸ Nat.one_pos)
  exact ⟨d, kept, Edge.bundle_eq_iff.mp (of_decide_eq_true same)⟩

/-- Removing parallel edges leaves adjacent nodes adjacent. -/
theorem adjacent_firsts (directed : Bool) (g : Graph) (u v : NodeId) :
    ({ g with edges := firsts directed [] g.edges } : Graph).adjacent u v = g.adjacent u v := by
  rw [Bool.eq_iff_iff, adjacent, adjacent, List.any_eq_true, List.any_eq_true]
  constructor
  · rintro ⟨e, kept, joined⟩
    exact ⟨e, (firsts_sublist directed [] g.edges).subset kept, joined⟩
  · rintro ⟨e, member, joined⟩
    obtain ⟨d, kept, parallel⟩ := exists_mem_firsts directed member
    exact ⟨d, kept, Edge.joins_iff_pair.mpr (parallel.pair_eq.trans (Edge.joins_iff_pair.mp joined))⟩

/-- Two nodes that were adjacent are joined once by the first edges, and others not at all. -/
theorem countP_joins_firsts (g : Graph) (u v : NodeId) :
    (firsts false [] g.edges).countP (fun e => e.joins u v) =
      if g.adjacent u v = true then 1 else 0 := by
  have joined : g.adjacent u v = true ↔ ∃ e ∈ g.edges, e.pair = s(u, v) := by
    simp only [adjacent, List.any_eq_true, Edge.joins_iff_pair]
  have once := countP_pair_firsts g.edges s(u, v)
  simp only [← joined] at once
  rw [← once]
  exact List.countP_congr fun e _ => by rw [Edge.joins_iff_pair, decide_eq_true_eq]

end Graph

end Multigraph
