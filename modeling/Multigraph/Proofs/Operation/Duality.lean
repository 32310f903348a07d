import Multigraph.Proofs.Operation.Complemented
import Multigraph.Proofs.Operation.DisjointUnion
import Multigraph.Proofs.Operation.Join
import Multigraph.Proofs.Workspace.Transcript

/-!
Joining is the dual of uniting: the complement of a disjoint union is the join of the complements.
Counted from node to node, the complement of the one has the edges of both complements and one from
every old node to every copy (`multiplicity_complemented_withCopy`), and these are what the join
draws (`multiplicity_crossed`). The join also removes parallel edges; it finds none if no node had
more than one loop, and then both ways lead to the same edges (`complement_withCopy_join`).
-/
namespace Multigraph

open Multigraph.Action

namespace Graph

variable {g h : Graph} {u v : NodeId}

/-! ## The complement of a disjoint union -/

/-- Between old nodes the complement of a disjoint union is that of the first graph. -/
theorem multiplicity_complemented_old (wf : g.WellFormed) (other : h.WellFormed)
    (old : u ∈ g.nodes) (old' : v ∈ g.nodes) :
    (complemented {} (g.withCopy h)).multiplicity u v = (complemented {} g).multiplicity u v := by
  have inside := (mem_nodes_withCopy (g := g) other).mpr (.inl old)
  have inside' := (mem_nodes_withCopy (g := g) other).mpr (.inl old')
  have alike : (g.withCopy h).adjacent u v = g.adjacent u v :=
    adjacent_congr (multiplicity_withCopy_old wf other (.inl old))
      (multiplicity_withCopy_old wf other (.inl old'))
  rw [multiplicity_complemented_default (withCopy_wellFormed wf other),
    multiplicity_complemented_default wf, multiplicity_withCopy_old wf other (.inl old), alike]
  simp only [inside, inside', old, old', true_and]

/-- Between copies it is that of the second graph. -/
theorem multiplicity_complemented_copies (wf : g.WellFormed) (other : h.WellFormed) {a b : NodeId}
    (held : a ∈ h.nodes) (held' : b ∈ h.nodes) :
    (complemented {} (g.withCopy h)).multiplicity (handleOf g.nextNode h.nodes a)
        (handleOf g.nextNode h.nodes b) = (complemented {} h).multiplicity a b := by
  have inside := (mem_nodes_withCopy (g := g) other).mpr (.inr ⟨a, held, rfl⟩)
  have inside' := (mem_nodes_withCopy (g := g) other).mpr (.inr ⟨b, held', rfl⟩)
  have alike : (g.withCopy h).adjacent (handleOf g.nextNode h.nodes a)
      (handleOf g.nextNode h.nodes b) = h.adjacent a b :=
    adjacent_congr (multiplicity_withCopy_copies wf other a b)
      (multiplicity_withCopy_copies wf other b a)
  have same : handleOf g.nextNode h.nodes a = handleOf g.nextNode h.nodes b ↔ a = b :=
    ⟨handleOf_inj held, congrArg _⟩
  rw [multiplicity_complemented_default (withCopy_wellFormed wf other),
    multiplicity_complemented_default other, multiplicity_withCopy_copies wf other, alike]
  simp only [inside, inside', held, held', same, true_and,
    handleOf_lt_iff other.nodes_increasing g.nextNode held held']

/-- From an old node to a copy it has one edge, and none the other way. -/
theorem multiplicity_complemented_across (wf : g.WellFormed) (other : h.WellFormed) {b : NodeId}
    (old : u ∈ g.nodes) (held : b ∈ h.nodes) :
    (complemented {} (g.withCopy h)).multiplicity u (handleOf g.nextNode h.nodes b) = 1 ∧
      (complemented {} (g.withCopy h)).multiplicity (handleOf g.nextNode h.nodes b) u = 0 := by
  have inside := (mem_nodes_withCopy (g := g) other).mpr (.inl old)
  have inside' := (mem_nodes_withCopy (g := g) other).mpr (.inr ⟨b, held, rfl⟩)
  have ahead := old_lt_copy wf old h.nodes b
  obtain ⟨forth, back⟩ := multiplicity_withCopy_across wf other old b
  have apart : (g.withCopy h).adjacent u (handleOf g.nextNode h.nodes b) = false := by
    rw [Bool.eq_false_iff, ne_eq, adjacent_iff, forth, back]
    exact Nat.lt_irrefl 0
  have union := withCopy_wellFormed wf other
  rw [multiplicity_complemented_default union, multiplicity_complemented_default union]
  simp [Int.ne_of_lt ahead, Int.ne_of_gt ahead, Int.lt_asymm ahead, ahead, inside, inside', apart]

/-- The complement of a disjoint union has the edges of both complements, and one from every old
node to every copy. -/
theorem multiplicity_complemented_withCopy (wf : g.WellFormed) (other : h.WellFormed)
    (u v : NodeId) :
    (complemented {} (g.withCopy h)).multiplicity u v =
      (complemented {} g).multiplicity u v +
        ((complemented {} h).copiedEnds g.nextNode).count (u, v) +
        if u ∈ g.nodes ∧ ∃ b ∈ h.nodes, handleOf g.nextNode h.nodes b = v then 1 else 0 := by
  have wf' := complemented_wellFormed wf {}
  have other' := complemented_wellFormed other {}
  have below : ∀ {node}, node ∈ g.nodes → node < g.nextNode := fun held =>
    (wf.nodes_below _ held).2
  by_cases held : u ∈ (g.withCopy h).nodes ∧ v ∈ (g.withCopy h).nodes
  · rw [mem_nodes_withCopy other, mem_nodes_withCopy other] at held
    rcases held with ⟨old | ⟨a, member, rfl⟩, old' | ⟨b, member', rfl⟩⟩
    · have within : ¬ (u ∈ g.nodes ∧ ∃ b ∈ h.nodes, handleOf g.nextNode h.nodes b = v) := by
        rintro ⟨_, b, _, rfl⟩
        exact copy_not_mem wf b old'
      rw [multiplicity_complemented_old wf other old old', if_neg within,
        count_copiedEnds_old other' (.inl (below old)), Nat.add_zero]
    · rw [(multiplicity_complemented_across wf other old member').1,
        count_copiedEnds_old other' (.inl (below old)), if_pos ⟨old, b, member', rfl⟩,
        multiplicity_eq_zero wf' fun both => copy_not_mem wf b both.2]
    · rw [(multiplicity_complemented_across wf other old' member).2,
        count_copiedEnds_old other' (.inr (below old')),
        if_neg fun across => copy_not_mem wf a across.1,
        multiplicity_eq_zero wf' fun both => copy_not_mem wf a both.1]
    · have copied := count_copiedEnds other' g.nextNode a b
      rw [nodes_complemented] at copied
      rw [multiplicity_complemented_copies wf other member member', copied,
        if_neg fun across => copy_not_mem wf a across.1,
        multiplicity_eq_zero wf' fun both => copy_not_mem wf a both.1]
      omega
  · rw [mem_nodes_withCopy other, mem_nodes_withCopy other] at held
    have nowhere : ¬ (u ∈ g.nodes ∧ ∃ b ∈ h.nodes, handleOf g.nextNode h.nodes b = v) :=
      fun across => held ⟨.inl across.1, .inr across.2⟩
    have uncopied : ((complemented {} h).copiedEnds g.nextNode).count (u, v) = 0 :=
      List.count_eq_zero.mpr fun listed =>
        held ⟨.inr (mem_copiedEnds other' listed).1, .inr (mem_copiedEnds other' listed).2⟩
    rw [multiplicity_eq_zero wf' fun both => held ⟨.inl both.1, .inl both.2⟩, uncopied,
      if_neg nowhere, multiplicity_eq_zero (complemented_wellFormed (withCopy_wellFormed wf other) {})]
    rw [nodes_complemented, mem_nodes_withCopy other, mem_nodes_withCopy other]
    exact held

theorem multiplicity_self_le (wf : g.WellFormed) (once : ∀ u ∈ g.nodes, g.multiplicity u u ≤ 1)
    (u : NodeId) : g.multiplicity u u ≤ 1 := by
  by_cases held : u ∈ g.nodes
  · exact once u held
  · rw [multiplicity_eq_zero wf fun both => held both.1]
    exact Nat.zero_le 1

/-- No node of a disjoint union has more than one loop if none had before. -/
theorem multiplicity_withCopy_self_le (wf : g.WellFormed) (other : h.WellFormed)
    (once : ∀ u, g.multiplicity u u ≤ 1) (once' : ∀ u, h.multiplicity u u ≤ 1) (u : NodeId) :
    (g.withCopy h).multiplicity u u ≤ 1 := by
  by_cases held : u ∈ (g.withCopy h).nodes
  · rcases (mem_nodes_withCopy other).mp held with old | ⟨a, _, rfl⟩
    · rw [multiplicity_withCopy_old wf other (.inl old)]
      exact once u
    · rw [multiplicity_withCopy_copies wf other]
      exact once' a
  · rw [multiplicity_eq_zero (withCopy_wellFormed wf other) fun both => held both.1]
    exact Nat.zero_le 1

/-! ## The join when nothing is identified -/

variable {values : Assignment} {images : Table NodeId NodeId} {s : Graph}

theorem placeFrom_bare (bare : ∀ node ∈ h.nodes, values.get? node = none) (counter : NodeId)
    {node : NodeId} (held : node ∈ h.nodes) :
    values.placeFrom counter h.nodes node = handleOf counter h.nodes node := by
  refine placeFrom_unset ?_
  rw [Assignment.target?, bare node held]

/-- Different pairs are joined across. -/
theorem crossPairs_nodup {old nodes : List NodeId} {place : NodeId → NodeId} (rows : old.Nodup)
    (columns : nodes.Nodup)
    (injective : ∀ node ∈ nodes, ∀ other ∈ nodes, place node = place other → node = other) :
    (crossPairs old nodes place).Nodup := by
  refine List.nodup_flatMap.mpr ⟨fun node _ => ?_, columns.imp_of_mem ?_⟩
  · exact (rows.filter _).map fun n m same => congrArg Prod.fst same
  · intro node other held held' apart pair first second
    obtain ⟨n, _, rfl⟩ := List.mem_map.mp first
    obtain ⟨m, _, same⟩ := List.mem_map.mp second
    exact apart (injective node held other held' (congrArg Prod.snd same).symm)

/-- Every old node is joined once to every copy. -/
theorem count_crossPairs_bare (wf : g.WellFormed) (other : h.WellFormed)
    (bare : ∀ node ∈ h.nodes, values.get? node = none) (u v : NodeId) :
    (crossPairs g.nodes h.nodes (values.placeFrom g.nextNode h.nodes)).count (u, v) =
      if u ∈ g.nodes ∧ ∃ b ∈ h.nodes, handleOf g.nextNode h.nodes b = v then 1 else 0 := by
  have place : ∀ {node}, node ∈ h.nodes →
      values.placeFrom g.nextNode h.nodes node = handleOf g.nextNode h.nodes node :=
    placeFrom_bare bare g.nextNode
  have distinct : (crossPairs g.nodes h.nodes (values.placeFrom g.nextNode h.nodes)).Nodup := by
    refine crossPairs_nodup wf.nodes_nodup other.nodes_nodup fun node held node' held' same => ?_
    rw [place held, place held'] at same
    exact handleOf_inj held same
  rw [distinct.count]
  refine if_congr ?_ rfl rfl
  rw [mem_crossPairs]
  constructor
  · rintro ⟨n, old, b, held, _, same⟩
    obtain ⟨rfl, rfl⟩ := Prod.mk.inj same
    exact ⟨old, b, held, (place held).symm⟩
  · rintro ⟨old, b, held, rfl⟩
    refine ⟨u, old, b, held, ?_, by rw [place held]⟩
    rw [place held]
    exact Int.ne_of_lt (old_lt_copy wf old h.nodes b)

/-- Before it looks for parallel edges a join has the edges of both graphs, and one from every old
node to every copy. -/
theorem multiplicity_crossed (wf : g.WellFormed) (other : h.WellFormed)
    (bare : ∀ node ∈ h.nodes, values.get? node = none)
    (held : Settled g h values h.nodes images s) (u v : NodeId) :
    (crossed g h values s).multiplicity u v =
      g.multiplicity u v + (h.copiedEnds g.nextNode).count (u, v) +
        if u ∈ g.nodes ∧ ∃ b ∈ h.nodes, handleOf g.nextNode h.nodes b = v then 1 else 0 := by
  obtain ⟨drawn, split, places⟩ := held.edges_split
  have copied : h.edges.map (Edge.endsUnder (placeAfter values g.nextNode h.nodes h.nodes)) =
      h.copiedEnds g.nextNode := by
    refine List.map_congr_left fun e member => ?_
    obtain ⟨source, target⟩ := other.ends_mem e member
    rw [Edge.endsUnder, Edge.endsUnder, placeAfter_all source, placeAfter_all target,
      placeFrom_bare bare _ source, placeFrom_bare bare _ target]
  rw [← count_ends, crossed, edges_withEdges, split, List.map_append, List.map_append,
    List.count_append, List.count_append, Edge.map_ends_numbered, places.count_eq, copied,
    count_ends, count_crossPairs_bare wf other bare]

/-! ## Both together -/

theorem isParallelFree_congr (same : ∀ u v, g.multiplicity u v = h.multiplicity u v) :
    g.isParallelFree false = h.isParallelFree false := by
  have joins : ∀ u v, g.edges.countP (fun e => e.joins u v) =
      h.edges.countP fun e => e.joins u v := by
    intro u v
    by_cases own : u = v
    · subst own
      rw [countP_joins_self, countP_joins_self, same]
    · rw [countP_joins g own, countP_joins h own, same, same]
  rw [Bool.eq_iff_iff, isParallelFree_iff, isParallelFree_iff]
  simp only [joins]

/-- A table without values refers to no node outside a graph. -/
theorem pointsInto_bare (bare : ∀ node ∈ h.nodes, values.get? node = none) :
    values.PointsInto h g := by
  intro node held value set
  rw [bare node held] at set
  cases set

/-- The nodes of a join in which nothing is identified. -/
theorem Settled.nodes_bare (bare : ∀ node ∈ h.nodes, values.get? node = none)
    (held : Settled g h values h.nodes images s) :
    s.nodes = g.nodes ++ h.nodes.map (handleOf g.nextNode h.nodes) := by
  have all : standing values h.nodes h.nodes = h.nodes :=
    List.filter_eq_self.mpr fun node member => by simp [Assignment.target?, bare node member]
  rw [held.nodes_eq, all]

/-- The complement of a disjoint union has the nodes and the edges of the join of the
complements. -/
theorem complement_withCopy_join (wf : g.WellFormed) (other : h.WellFormed)
    (once : ∀ u, g.multiplicity u u ≤ 1) (once' : ∀ u, h.multiplicity u u ≤ 1)
    (bare : ∀ node ∈ h.nodes, values.get? node = none) :
    ∃ images event joined,
      join (.other (complemented {} h)) values (complemented {} g) = .ok (images, event) joined ∧
      (complemented {} (g.withCopy h)).nodes = joined.nodes ∧
      ((complemented {} (g.withCopy h)).edges.map Edge.ends).Perm
        (joined.edges.map Edge.ends) := by
  have wf' := complemented_wellFormed wf {}
  have other' := complemented_wellFormed other {}
  have valid : values.PointsInto (complemented {} h) (complemented {} g) := pointsInto_bare bare
  obtain ⟨images, s, settled, ran⟩ := join_run wf' other' valid
  have alike : ∀ u v, (complemented {} (g.withCopy h)).multiplicity u v =
      (crossed (complemented {} g) (complemented {} h) values s).multiplicity u v := by
    intro u v
    rw [multiplicity_complemented_withCopy wf other, multiplicity_crossed wf' other' bare settled]
    rfl
  -- No edge is parallel to another after the union, so the join removes none.
  have free : (crossed (complemented {} g) (complemented {} h) values s).isParallelFree false := by
    rw [← isParallelFree_congr alike]
    exact isParallelFree_complemented (withCopy_wellFormed wf other)
      (multiplicity_withCopy_self_le wf other once once')
  rw [firsts_of_isParallelFree (crossed_wellFormed valid settled).ids_nodup free] at ran
  have nodes := settled.nodes_bare (g := complemented {} g) (h := complemented {} h) bare
  refine ⟨images, _, _, ran, ?_, perm_ends_of_multiplicity alike⟩
  rw [nodes_complemented, nodes_withCopy g other]
  exact nodes.symm

end Graph

namespace Workspace

variable {w : Workspace} {first second first' second' : GraphId} {m : MapId}

/-- In every workspace that commands lead to, the complement of a disjoint union is the join of the
complements. Here one graph is a copy of the first and another a copy of the second, and the
correspondence that the join is given leaves all nodes unset. No command fails. If no node has more
than one loop, both ways lead to the same nodes, in the same order, and to as many edges from any
node to any other. -/
theorem complement_of_union_is_join_of_complements (reached : w.Reachable)
    (apart : [first, second, first', second'].Nodup)
    (held : ∀ id ∈ [first, first', second'], id < w.graphs.length)
    (copied : w.graph first' = w.graph first) (copied' : w.graph second' = w.graph second)
    (bound : w.isBoundTo m second' = true)
    (bare : ∀ node ∈ (w.graph second').nodes, (w.map m).values.get? node = none)
    (once : ∀ u ∈ (w.graph first).nodes, (w.graph first).multiplicity u u ≤ 1)
    (once' : ∀ u ∈ (w.graph second).nodes, (w.graph second).multiplicity u u ≤ 1) :
    ∃ after, w.Transcript
        [(.disjointUnion first second, .map w.maps.length), (.complement first {}, .done),
          (.complement first' {}, .done), (.complement second' {}, .done),
          (.join first' second' m, .map m)] after ∧
      (after.graph first).nodes = (after.graph first').nodes ∧
      ((after.graph first).edges.map Edge.ends).Perm
        ((after.graph first').edges.map Edge.ends) := by
  have inside : first < w.graphs.length := held first (by simp)
  have inside' : first' < w.graphs.length := held first' (by simp)
  have inside'' : second' < w.graphs.length := held second' (by simp)
  simp only [List.nodup_cons, List.mem_cons, List.not_mem_nil, or_false, not_or] at apart
  obtain ⟨⟨_, split, split'⟩, _, away, _⟩ := apart
  obtain ⟨w₁, ran₁, reached₁, united⟩ := disjointUnion_command reached inside second
  obtain ⟨_, w₂, ran₂, reached₂, turned⟩ :=
    complement_command reached₁ (united.length_eq ▸ inside) {}
  have inside₂ : first' < w₂.graphs.length := by rwa [turned.length_eq, united.length_eq]
  obtain ⟨_, w₃, ran₃, reached₃, turned'⟩ := complement_command reached₂ inside₂ {}
  have inside₃ : second' < w₃.graphs.length := by
    rwa [turned'.length_eq, turned.length_eq, united.length_eq]
  obtain ⟨_, w₄, ran₄, reached₄, turned''⟩ := complement_command reached₃ inside₃ {}
  -- The graphs that the join finds, and the graph that it is compared with.
  have union : w₄.graph first = Graph.complemented {} ((w.graph first).withCopy (w.graph second)) := by
    rw [turned''.others first split', turned'.others first split, turned.graph_eq, united.graph_eq]
  have left : w₄.graph first' = Graph.complemented {} (w.graph first) := by
    rw [turned''.others first' away, turned'.graph_eq, turned.others first' (Ne.symm split),
      united.others first' (Ne.symm split), copied]
  have right : w₄.graph second' = Graph.complemented {} (w.graph second) := by
    rw [turned''.graph_eq, turned'.others second' (Ne.symm away),
      turned.others second' (Ne.symm split'), united.others second' (Ne.symm split'), copied']
  obtain ⟨bound₁, values₁⟩ := united.bound bound
  obtain ⟨bound₂, values₂⟩ := turned.bound bound₁
  obtain ⟨bound₃, values₃⟩ := turned'.bound bound₂
  obtain ⟨bound₄, values₄⟩ := turned''.bound bound₃
  rw [copied'] at bare
  have wf := reached.wellFormed first
  have other := reached.wellFormed second
  obtain ⟨images, event, joined, ran, nodes, ends⟩ := Graph.complement_withCopy_join wf other
    (Graph.multiplicity_self_le wf once) (Graph.multiplicity_self_le other once') bare
  rw [← left, ← right, ← values₁, ← values₂, ← values₃, ← values₄] at ran
  have ran₅ := join_command away bound₄ ran
  refine ⟨_, .cons ran₁ (.cons ran₂ (.cons ran₃ (.cons ran₄ (.cons ran₅ (.nil _))))), ?_⟩
  have inside₄ : first' < w₄.graphs.length := by
    rwa [turned''.length_eq, turned'.length_eq, turned.length_eq, united.length_eq]
  have there := (graph_recorded w₄ first' first joined m images).trans
    (if_neg fun same => split same.1.symm)
  have here := (graph_recorded w₄ first' first' joined m images).trans (if_pos ⟨rfl, inside₄⟩)
  rw [there, here, union]
  exact ⟨nodes, ends⟩

/-- Two graphs with gaps in their handles, loops and edges both ways, a copy of either, and a
correspondence that is bound to the second copy. -/
def copies : List Command :=
  [.newGraph, .newNode 0, .newNode 0, .newNode 0, .newNode 0, .deleteNode 0 1, .newEdge 0 0 0,
    .newEdge 0 3 0, .newEdge 0 0 3, .newGraph, .newNode 1, .newNode 1, .newNode 1, .deleteNode 1 0,
    .newEdge 1 2 2, .newGraph, .copy 0, .copy 1, .newMap (some 4)]

theorem complement_of_union_is_join_of_complements_copies :
    Reachable (runAll {} copies) ∧ [0, 1, 3, 4].Nodup ∧
    (∀ id ∈ [0, 3, 4], id < (runAll {} copies).graphs.length) ∧
    (runAll {} copies).graph 3 = (runAll {} copies).graph 0 ∧
    (runAll {} copies).graph 4 = (runAll {} copies).graph 1 ∧
    (runAll {} copies).isBoundTo 0 4 = true ∧
    (∀ node ∈ ((runAll {} copies).graph 4).nodes,
      ((runAll {} copies).map 0).values.get? node = none) ∧
    (∀ u ∈ ((runAll {} copies).graph 0).nodes, ((runAll {} copies).graph 0).multiplicity u u ≤ 1) ∧
    (∀ u ∈ ((runAll {} copies).graph 1).nodes, ((runAll {} copies).graph 1).multiplicity u u ≤ 1) ∧
    ∃ after, (runAll {} copies).Transcript
        [(.disjointUnion 0 1, .map 1), (.complement 0 {}, .done), (.complement 3 {}, .done),
          (.complement 4 {}, .done), (.join 3 4 0, .map 0)] after ∧
      (after.graph 0).nodes = (after.graph 3).nodes ∧
      ((after.graph 0).edges.map Edge.ends).Perm ((after.graph 3).edges.map Edge.ends) := by
  have reached : Reachable (runAll {} copies) :=
    reachable_runAll .empty (by simp [copies, Command.Proper])
  have apart : [0, 1, 3, 4].Nodup := by decide
  have held : ∀ id ∈ [0, 3, 4], id < (runAll {} copies).graphs.length := by decide +kernel
  have copied : (runAll {} copies).graph 3 = (runAll {} copies).graph 0 := by rfl
  have copied' : (runAll {} copies).graph 4 = (runAll {} copies).graph 1 := by rfl
  have bound : (runAll {} copies).isBoundTo 0 4 = true := by decide +kernel
  have bare : ∀ node ∈ ((runAll {} copies).graph 4).nodes,
      ((runAll {} copies).map 0).values.get? node = none := by decide +kernel
  have once : ∀ u ∈ ((runAll {} copies).graph 0).nodes,
      ((runAll {} copies).graph 0).multiplicity u u ≤ 1 := by decide +kernel
  have once' : ∀ u ∈ ((runAll {} copies).graph 1).nodes,
      ((runAll {} copies).graph 1).multiplicity u u ≤ 1 := by decide +kernel
  exact ⟨reached, apart, held, copied, copied', bound, bare, once, once',
    complement_of_union_is_join_of_complements reached apart held copied copied' bound bare once
      once'⟩

end Workspace

end Multigraph
