import Multigraph.Proofs.Graph.Insert
import Multigraph.Proofs.Graph.Simple
import Multigraph.Proofs.Workspace.Merge
import Multigraph.Proofs.Workspace.Transcript

/-!
The disjoint union of two graphs is the first with a copy of the second. Every node of it is an old
one or a copy (`mem_nodes_withCopy`); between old nodes it has the edges of the first graph and
between copies those of the second, and the two are never joined (`multiplicity_withCopy_old`,
`multiplicity_withCopy_copies`).
-/
namespace Multigraph

open Multigraph.Action

namespace Graph

/-- The ends of the edges of a copy whose nodes get handles from a counter on. -/
def copiedEnds (first : NodeId) (h : Graph) : List (NodeId × NodeId) :=
  h.edges.map (Edge.endsUnder (handleOf first h.nodes))

/-- A graph with a copy of another. -/
def withCopy (g h : Graph) : Graph :=
  (g.withNodes h.nodes.length).withEdges (h.copiedEnds g.nextNode)

variable {g h : Graph} {u v a b : NodeId}

theorem disjointUnion_run (other : h.WellFormed) :
    disjointUnion h g =
      .ok ⟨h.nodes.zip (handlesFrom g.nextNode h.nodes.length)⟩ (g.withCopy h) :=
  bind_of_ok (insert_run other)

theorem withCopy_wellFormed (wf : g.WellFormed) (other : h.WellFormed) :
    (g.withCopy h).WellFormed :=
  ((disjointUnion_changes h).reached (disjointUnion_run other)).wellFormed wf

theorem nodes_withCopy (g : Graph) (other : h.WellFormed) :
    (g.withCopy h).nodes = g.nodes ++ h.nodes.map (handleOf g.nextNode h.nodes) := by
  rw [map_handleOf _ other.nodes_nodup]
  rfl

theorem mem_nodes_withCopy (other : h.WellFormed) :
    u ∈ (g.withCopy h).nodes ↔
      u ∈ g.nodes ∨ ∃ a ∈ h.nodes, handleOf g.nextNode h.nodes a = u := by
  rw [nodes_withCopy g other, List.mem_append, List.mem_map]

theorem copy_not_mem (wf : g.WellFormed) (a : NodeId) :
    handleOf g.nextNode h.nodes a ∉ g.nodes := fun old =>
  Int.lt_irrefl _ (old_lt_copy wf old h.nodes a)

/-! ## Counting -/

/-- Between two copies run the edges between the nodes that were copied. -/
theorem count_copiedEnds (other : h.WellFormed) (first a b : NodeId) :
    (h.copiedEnds first).count (handleOf first h.nodes a, handleOf first h.nodes b) =
      h.multiplicity a b := by
  rw [copiedEnds, List.count_eq_countP, List.countP_map, multiplicity]
  refine List.countP_congr fun e member => ?_
  obtain ⟨source, target⟩ := other.ends_mem e member
  have starts : handleOf first h.nodes e.source = handleOf first h.nodes a ↔ e.source = a :=
    ⟨handleOf_inj source, congrArg _⟩
  have ends : handleOf first h.nodes e.target = handleOf first h.nodes b ↔ e.target = b :=
    ⟨handleOf_inj target, congrArg _⟩
  simp [Edge.endsUnder, Edge.runs, starts, ends]

/-- The edges of a copy run between copies. -/
theorem mem_copiedEnds (other : h.WellFormed) {first : NodeId} (listed : (u, v) ∈ h.copiedEnds first) :
    (∃ a ∈ h.nodes, handleOf first h.nodes a = u) ∧ ∃ b ∈ h.nodes, handleOf first h.nodes b = v := by
  obtain ⟨e, member, same⟩ := List.mem_map.mp listed
  obtain ⟨source, target⟩ := other.ends_mem e member
  obtain ⟨rfl, rfl⟩ := Prod.mk.inj same
  exact ⟨⟨e.source, source, rfl⟩, e.target, target, rfl⟩

theorem count_copiedEnds_old (other : h.WellFormed) {first : NodeId} (old : u < first ∨ v < first) :
    (h.copiedEnds first).count (u, v) = 0 := by
  refine List.count_eq_zero.mpr fun listed => ?_
  obtain ⟨⟨a, _, rfl⟩, b, _, rfl⟩ := mem_copiedEnds other listed
  have first_le := le_handleOf first h.nodes a
  have first_le' := le_handleOf first h.nodes b
  lia

theorem multiplicity_withCopy (g h : Graph) (u v : NodeId) :
    (g.withCopy h).multiplicity u v =
      g.multiplicity u v + (h.copiedEnds g.nextNode).count (u, v) := by
  rw [← count_ends, withCopy, edges_withEdges, List.map_append, List.count_append,
    Edge.map_ends_numbered, edges_withNodes, count_ends]

/-- At old nodes there are the edges of the first graph. -/
theorem multiplicity_withCopy_old (wf : g.WellFormed) (other : h.WellFormed)
    (old : u ∈ g.nodes ∨ v ∈ g.nodes) :
    (g.withCopy h).multiplicity u v = g.multiplicity u v := by
  have below : u < g.nextNode ∨ v < g.nextNode :=
    old.imp (fun held => (wf.nodes_below u held).2) (fun held => (wf.nodes_below v held).2)
  rw [multiplicity_withCopy, count_copiedEnds_old other below, Nat.add_zero]

/-- Between copies there are the edges of the second graph. -/
theorem multiplicity_withCopy_copies (wf : g.WellFormed) (other : h.WellFormed) (a b : NodeId) :
    (g.withCopy h).multiplicity (handleOf g.nextNode h.nodes a) (handleOf g.nextNode h.nodes b) =
      h.multiplicity a b := by
  rw [multiplicity_withCopy, count_copiedEnds other,
    multiplicity_eq_zero wf fun both => copy_not_mem wf a both.1, Nat.zero_add]

/-- Between an old node and a copy there are no edges. -/
theorem multiplicity_withCopy_across (wf : g.WellFormed) (other : h.WellFormed) (old : u ∈ g.nodes)
    (b : NodeId) :
    (g.withCopy h).multiplicity u (handleOf g.nextNode h.nodes b) = 0 ∧
      (g.withCopy h).multiplicity (handleOf g.nextNode h.nodes b) u = 0 := by
  constructor
  · rw [multiplicity_withCopy_old wf other (.inl old)]
    exact multiplicity_eq_zero wf fun both => copy_not_mem wf b both.2
  · rw [multiplicity_withCopy_old wf other (.inr old)]
    exact multiplicity_eq_zero wf fun both => copy_not_mem wf b both.1

end Graph

namespace Workspace

/-- The command for a disjoint union leaves the first graph with a copy of the second and adds a
correspondence. -/
theorem disjointUnion_command {w : Workspace} (reached : w.Reachable) {first : GraphId}
    (held : first < w.graphs.length) (second : GraphId) :
    ∃ after, run (.disjointUnion first second) w =
        .ok { answer := .map w.maps.length, event := none } after ∧ after.Reachable ∧
      w.Replaced first ((w.graph first).withCopy (w.graph second)) after := by
  have ran := disjointUnion_completes
    (Graph.disjointUnion_run (g := w.graph first) (reached.wellFormed second))
  refine ⟨_, ran, reached.ran ran trivial, ?_, fun other apart => ?_, List.length_set,
    fun m earlier => ?_, rfl⟩
  · exact (graph_recorded _ first first _ _ _).trans (if_pos ⟨rfl, held⟩)
  · exact (graph_recorded _ first other _ _ _).trans (if_neg fun both => apart both.1.symm)
  -- The new correspondence stands behind all that were there, so those are not touched.
  · exact (map_setMap_ne (Nat.ne_of_lt earlier) _ _).trans (map_withMap_earlier earlier)

end Workspace

end Multigraph
