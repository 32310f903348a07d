import Multigraph.Proofs.Operation.DisjointUnion
import Multigraph.Proofs.Operation.Intersection
import Multigraph.Proofs.Operation.Join

/-!
Operations on a graph and itself. What they read of the second graph they read while it changes.
An intersection first deletes the nodes without a correspondent; a node that corresponds to one of
these then asks for what is gone, and nothing else can go wrong (`intersection_same_run`,
`intersection_same_stuck`). A join settles the nodes and then their copies, which have no copies
of their own: it stops at the first copy that has been absorbed or, if none has been, at the first
copy that is to be joined to the old nodes (`join_same_stuck`).
-/
namespace Multigraph

open Multigraph.Action

namespace Graph

variable {first g h : Graph} {values : Assignment} {images : Table NodeId NodeId}
  {node image : NodeId}

/-! ## Intersection -/

/-- The far end of an edge is a node. -/
theorem WellFormed.far_mem (wf : g.WellFormed) {e : Edge} (member : e ∈ g.edges) (node : NodeId) :
    e.far node ∈ g.nodes := by
  obtain ⟨source, target⟩ := wf.ends_mem e member
  rw [Edge.far]
  split
  · exact target
  · exact source

/-- Visiting a node whose correspondent is still there takes away edges at most. -/
theorem trimNode_same_run (wf : h.WellFormed) (held : node ∈ h.nodes)
    (found : images.get? node = some image) (known : image ∈ h.nodes)
    (corresponds : ∀ other ∈ h.nodes, ∃ twin, images.get? other = some twin) (dropped : Nat) :
    ∃ count ids, trimNode .same images dropped node h = .ok count (h.withoutEdges ids) := by
  have fetched : images.fetch node = .ok image := by rw [Table.fetch, found]
  obtain ⟨stays, judged⟩ : ∃ stays : Edge → Bool, ∀ e, stays e =
      (images.get? (e.far node)).any fun twin => twin ∈ h.neighbours image := ⟨_, fun _ => rfl⟩
  have incident : ∀ e ∈ h.incidentEdges node, e ∈ h.edges ∧ e.touches node = true :=
    fun e member => List.mem_filter.mp member
  have looped : (h.incidentEdges node).foldlM (trimEdge images node (h.neighbours image)) dropped h =
      .ok (dropped + ((h.incidentEdges node).filter fun e => !stays e).length)
        (h.withoutEdges (((h.incidentEdges node).filter fun e => !stays e).map Edge.id)) :=
    trimEdges_run dropped (fun e member => (incident e member).1) wf.ids_nodup
    (wf.ids_nodup.sublist (List.filter_sublist.map Edge.id))
    (fun e member => (incident e member).2) fun e member => by
      obtain ⟨twin, there⟩ := corresponds _ (wf.far_mem (incident e member).1 node)
      refine ⟨twin, by rw [Table.fetch, there], ?_⟩
      rw [judged, there, Option.any_some, decide_eq_true_eq]
  have read : Operand.same.read h = .ok h h := rfl
  have begins : trimNode .same images dropped node h =
      (h.incidentEdges node).foldlM (trimEdge images node (h.neighbours image)) dropped h := by
    refine (bind_of_ok (ofExcept_of_ok fetched h)).trans ((bind_of_ok read).trans ?_)
    refine (bind_of_ok (ofExcept_of_ok (atNode_of_mem neighbours known) h)).trans ?_
    exact bind_of_ok (query_atNode_run incidentEdges held)
  exact ⟨_, _, begins.trans looped⟩

/-- Visiting a node whose correspondent is gone fails. -/
theorem trimNode_same_missing (found : images.get? node = some image) (gone : image ∉ h.nodes)
    (dropped : Nat) : trimNode .same images dropped node h = .error (.missingNode image) h := by
  have fetched : images.fetch node = .ok image := by rw [Table.fetch, found]
  have refused : h.atNode neighbours image = .error (.missingNode image) := by
    rw [atNode, requireNode_of_not_mem gone]
    rfl
  refine (bind_of_ok (ofExcept_of_ok fetched h)).trans ?_
  have read : Operand.same.read h = .ok h h := rfl
  exact (bind_of_ok read).trans (bind_of_error (query_of_error refused))

/-- Visiting some of the nodes leaves all nodes there, as long as the correspondents of the visited
nodes are there. -/
theorem trimNodes_same_run (wf : g.WellFormed) (visited : List NodeId)
    (inside : ∀ node ∈ visited, node ∈ g.nodes ∧ ∃ image ∈ g.nodes, images.get? node = some image)
    (corresponds : ∀ node ∈ g.nodes, ∃ image, images.get? node = some image) :
    ∃ count, ∃ h : Graph, visited.foldlM (trimNode .same images) 0 g = .ok count h ∧
      h.WellFormed ∧ h.nodes = g.nodes := by
  refine foldlM_invariant (fun _ _ (h : Graph) => h.WellFormed ∧ h.nodes = g.nodes)
    ⟨wf, rfl⟩ ?_
  rintro done node rest dropped h cut ⟨healthy, same⟩
  obtain ⟨held, image, known, found⟩ := inside node (by simp [cut])
  obtain ⟨count, ids, ran⟩ := trimNode_same_run healthy (same ▸ held) found (same ▸ known)
    (same ▸ corresponds) dropped
  refine ⟨count, _, ran, ?_, same⟩
  exact healthy.of_sublists (.refl _) List.filter_sublist fun e member =>
    healthy.ends_mem e (List.mem_filter.mp member).1

/-- The nodes that are left when those without a correspondent have gone. -/
theorem mem_nodes_set : node ∈ (first.withoutNodes (values.unsetNodes first)).nodes ↔
    node ∈ first.nodes ∧ (values.get? node).isSome = true := by
  simp only [withoutNodes, Assignment.unsetNodes, List.mem_filter, decide_eq_true_eq, not_and]
  refine and_congr_right fun held => ?_
  cases values.get? node with
  | none => simp [held]
  | some value => simp

/-- Every node that is left has a correspondent among the old nodes. -/
theorem correspondent_of_mem (valid : values.PointsInto first first)
    (left : node ∈ (first.withoutNodes (values.unsetNodes first)).nodes) :
    ∃ image ∈ first.nodes, values.target? node = some image ∧
      (⟨values.identifications first.nodes⟩ : Table NodeId NodeId).get? node = some image := by
  obtain ⟨held, set⟩ := mem_nodes_set.mp left
  obtain ⟨image, known, found⟩ := valid.target_of_set held (by
    intro unset
    simp [Option.isNone_iff_eq_none.mp (List.mem_filter.mp unset).2] at set)
  refine ⟨image, known, found, ?_⟩
  rw [Table.get?, Assignment.lookup_identifications, if_pos held, found]

/-- An intersection with itself first loses the nodes without a correspondent. -/
theorem intersection_same_begins (wf : first.WellFormed) (valid : values.PointsInto first first) :
    (first.withoutNodes (values.unsetNodes first)).WellFormed ∧
    intersection .same values first =
      ((first.withoutNodes (values.unsetNodes first)).nodes.foldlM
          (trimNode .same ⟨values.identifications first.nodes⟩) 0 >>= fun dropped => do
        let common ← get
        return .intersection (values.unsetNodes first).length dropped common.nodeCount
          common.edgeCount) (first.withoutNodes (values.unsetNodes first)) := by
  have resolved := Assignment.resolve_run valid wf.nodes_nodup .correspondsOutside
  have lost : ∀ node ∈ values.unsetNodes first, node ∈ first.nodes := fun node member =>
    (List.mem_filter.mp member).1
  have deleted := deleteNodes_run lost (wf.nodes_nodup.filter _)
  refine ⟨((keeps_forM fun node _ => deleteNode_changes node).reached deleted).wellFormed wf, ?_⟩
  rw [intersection, get_bind_run]
  refine (bind_of_ok (ofExcept_of_ok resolved first)).trans ?_
  exact (bind_of_ok deleted).trans (get_bind_run _ _)

/-- An intersection with itself succeeds when every correspondent has a correspondent. -/
theorem intersection_same_run (wf : first.WellFormed) (valid : values.PointsInto first first)
    (closed : ∀ node ∈ first.nodes, ∀ image, values.target? node = some image →
      (values.get? image).isSome = true) :
    ∃ event g, intersection .same values first = .ok event g := by
  obtain ⟨healthy, begins⟩ := intersection_same_begins wf valid
  obtain ⟨dropped, g, looped, _⟩ := trimNodes_same_run healthy
    (first.withoutNodes (values.unsetNodes first)).nodes
    (fun node left => by
      obtain ⟨image, known, target, found⟩ := correspondent_of_mem valid left
      have set := closed node (mem_nodes_set.mp left).1 image target
      exact ⟨left, image, mem_nodes_set.mpr ⟨known, set⟩, found⟩)
    fun node left => by
      obtain ⟨image, _, _, found⟩ := correspondent_of_mem valid left
      exact ⟨image, found⟩
  rw [begins]
  exact ⟨_, _, bind_of_ok looped⟩

/-- An intersection with itself fails at the first node whose correspondent has none. -/
theorem intersection_same_stuck (wf : first.WellFormed) (valid : values.PointsInto first first)
    {node image : NodeId} (held : node ∈ first.nodes) (target : values.target? node = some image)
    (bare : values.get? image = none) :
    ∃ lost g, intersection .same values first = .error (.missingNode lost) g := by
  obtain ⟨healthy, begins⟩ := intersection_same_begins wf valid
  obtain ⟨remaining, left⟩ : ∃ r, r = first.withoutNodes (values.unsetNodes first) := ⟨_, rfl⟩
  obtain ⟨images, listed⟩ : ∃ images : Table NodeId NodeId,
    images = ⟨values.identifications first.nodes⟩ := ⟨_, rfl⟩
  have corresponds : ∀ other ∈ remaining.nodes, ∃ image, images.get? other = some image :=
    fun other there => by
      obtain ⟨image, _, _, found⟩ := correspondent_of_mem valid (left ▸ there)
      exact ⟨image, listed ▸ found⟩
  rw [← left] at healthy
  rw [← left, ← listed] at begins
  -- The loop gets as far as the first node whose correspondent has gone.
  obtain ⟨stuck, first_stuck⟩ : ∃ stuck, remaining.nodes.find? (fun other =>
      (images.get? other).any fun image => image ∉ remaining.nodes) = some stuck := by
    refine Option.isSome_iff_exists.mp (List.find?_isSome.mpr ⟨node, ?_, ?_⟩)
    · rw [left, mem_nodes_set]
      refine ⟨held, ?_⟩
      have set := valid.isSome_target held
      rw [target] at set
      cases read : values.get? node with
      | none => simp [read] at set
      | some value => rfl
    · have found : images.get? node = some image := by
        rw [listed, Table.get?, Assignment.lookup_identifications, if_pos held, target]
      simp [found, left, mem_nodes_set, bare]
  obtain ⟨gone, before, rest, cut, earlier⟩ := List.find?_eq_some_iff_append.mp first_stuck
  obtain ⟨lost, found, missing⟩ := (Option.any_eq_true ..).mp gone
  obtain ⟨dropped, h, looped, _, same⟩ := trimNodes_same_run healthy before
    (fun other member => by
      have there : other ∈ remaining.nodes := by
        rw [cut]
        exact List.mem_append_left _ member
      obtain ⟨image, found⟩ := corresponds other there
      refine ⟨there, image, ?_, found⟩
      simpa [found] using earlier other member)
    corresponds
  have absent : lost ∉ h.nodes := by
    rw [same]
    exact of_decide_eq_true missing
  have stops := trimNode_same_missing found absent dropped
  have failed := foldlM_stops looped stops rest
  rw [← cut] at failed
  rw [begins]
  exact ⟨lost, _, bind_of_error failed⟩

/-! ## Join -/

/-- Settling reads of the second graph only whether the node is one of its nodes. -/
theorem settle_same {identified : Table NodeId NodeId} (held : node ∈ g.nodes)
    (known : node ∈ h.nodes) :
    settle .same identified images node g = settle (.other h) identified images node g := by
  have required : Assignment.requireKey g node = .ok () := if_pos held
  have other : Assignment.requireKey h node = .ok () := if_pos known
  have read : Operand.same.read g = .ok g g := rfl
  refine (bind_of_ok read).trans ((bind_of_ok (ofExcept_of_ok required g)).trans ?_)
  exact ((bind_of_ok (Operand.read_other h g)).trans (bind_of_ok (ofExcept_of_ok other g))).symm

/-- A node that is gone cannot be settled. -/
theorem settle_same_missing (identified images : Table NodeId NodeId) (gone : node ∉ g.nodes) :
    settle .same identified images node g = .error (.missingKey node) g := by
  have refused : Assignment.requireKey g node = .error (.missingKey node) := if_neg gone
  have read : Operand.same.read g = .ok g g := rfl
  exact (bind_of_ok read).trans (bind_of_error (query_of_error refused))

/-- Settling the old nodes brings each to its place, as if the second graph were another one. -/
theorem settle_old_run (wf : first.WellFormed) (valid : values.PointsInto first first) :
    ∃ images g, first.nodes.foldlM (settle .same ⟨values.identifications first.nodes⟩)
        ⟨first.nodes.zip (handlesFrom first.nextNode first.nodes.length)⟩
        (first.withCopy first) = .ok images g ∧
      Settled first first values first.nodes images g := by
  refine foldlM_invariant (Settled first first values) (settled_start wf wf values) ?_
  intro done node rest images g cut held
  have old : node ∈ first.nodes := cut ▸ List.mem_append_cons_self
  rw [settle_same (held.old_mem old) old]
  exact settle_next wf wf valid cut held

/-- The copy of an unset node has nothing to settle. -/
theorem settle_copy_idle (wf : first.WellFormed)
    (held : Settled first first values first.nodes images g) (old : node ∈ first.nodes)
    (bare : values.target? node = none) :
    settle .same ⟨values.identifications first.nodes⟩ images
      (handleOf first.nextNode first.nodes node) g = .ok images g := by
  have stands : handleOf first.nextNode first.nodes node ∈ g.nodes := by
    rw [held.nodes_eq]
    refine List.mem_append_right _ (List.mem_map_of_mem ?_)
    exact List.mem_filter.mpr ⟨old, by simp [bare]⟩
  rw [settle_same stands stands]
  refine settle_unset_run images stands ?_
  rw [Table.get?, Assignment.lookup_identifications, if_neg (copy_not_mem wf node)]

/-- The copy of an identified node has been absorbed. -/
theorem copy_absorbed (wf : first.WellFormed)
    (held : Settled first first values first.nodes images g) (old : node ∈ first.nodes)
    (set : (values.target? node).isSome = true) :
    handleOf first.nextNode first.nodes node ∉ g.nodes := by
  rw [held.nodes_eq]
  intro listed
  rcases List.mem_append.mp listed with former | copied
  · exact copy_not_mem wf node former
  · obtain ⟨other, stands, same⟩ := List.mem_map.mp copied
    obtain ⟨member, there⟩ := List.mem_filter.mp stands
    obtain rfl := handleOf_inj member same
    simp [old, set] at there

/-- A join with itself copies the graph and settles the old nodes; then it goes on with their
copies. -/
theorem join_same_begins (wf : first.WellFormed) (valid : values.PointsInto first first) :
    ∃ images g, Settled first first values first.nodes images g ∧
      join .same values first =
        ((first.nodes.map (handleOf first.nextNode first.nodes)).foldlM
            (settle .same ⟨values.identifications first.nodes⟩) images >>= fun images => do
          (← Operand.same.read).nodes.forM (crossEdges first.nodes images)
          let removed ← removeParallel false
          let joined ← get
          return (images, .join (values.identifications first.nodes).length removed
            joined.nodeCount joined.edgeCount)) g := by
  obtain ⟨images, g, settled, held⟩ := settle_old_run wf valid
  have resolved := Assignment.resolve_run valid wf.nodes_nodup .identifiedOutside
  have read : Operand.same.read (first.withCopy first) =
      .ok (first.withCopy first) (first.withCopy first) := rfl
  refine ⟨images, g, held, ?_⟩
  rw [join, get_bind_run]
  refine (bind_of_ok (ofExcept_of_ok resolved first)).trans ?_
  refine (bind_of_ok (insert_run wf)).trans ((bind_of_ok read).trans ?_)
  have onward : (first.nodes ++ first.nodes.map (handleOf first.nextNode first.nodes)).foldlM
      (settle .same ⟨values.identifications first.nodes⟩)
      ⟨first.nodes.zip (handlesFrom first.nextNode first.nodes.length)⟩ (first.withCopy first) =
        _ := foldlM_append_of_ok settled
  rw [← nodes_withCopy first wf] at onward
  exact bind_of_eq onward _

/-- If a node is identified, a join with itself fails at the copy of the first such node: it is to
be settled when it has been absorbed. -/
theorem join_same_absorbed (wf : first.WellFormed) (valid : values.PointsInto first first)
    (found : (first.nodes.find? fun other => (values.get? other).isSome) = some node) :
    ∃ g, join .same values first =
        .error (.missingKey (handleOf first.nextNode first.nodes node)) g ∧
      ∀ old ∈ first.nodes, old ∈ g.nodes := by
  obtain ⟨images, g, held, begins⟩ := join_same_begins wf valid
  obtain ⟨set, before, rest, cut, earlier⟩ := List.find?_eq_some_iff_append.mp found
  have old : node ∈ first.nodes := cut ▸ List.mem_append_cons_self
  have idle : (before.map (handleOf first.nextNode first.nodes)).foldlM
      (settle .same ⟨values.identifications first.nodes⟩) images g = .ok images g := by
    refine foldlM_idle fun copy listed => ?_
    obtain ⟨other, ahead, rfl⟩ := List.mem_map.mp listed
    have member : other ∈ first.nodes := by
      rw [cut]
      exact List.mem_append_left _ ahead
    have unset : values.get? other = none := by simpa using earlier other ahead
    exact settle_copy_idle wf held member (by rw [Assignment.target?, unset])
  have gone := copy_absorbed wf held old (by
    rw [valid.isSome_target old, Option.not_isNone]
    exact set)
  have failed := foldlM_stops idle
    (settle_same_missing ⟨values.identifications first.nodes⟩ images gone)
    (rest.map (handleOf first.nextNode first.nodes))
  have split : first.nodes.map (handleOf first.nextNode first.nodes) =
      before.map (handleOf first.nextNode first.nodes) ++
        handleOf first.nextNode first.nodes node ::
          rest.map (handleOf first.nextNode first.nodes) := by
    rw [← List.map_cons, ← List.map_append, ← cut]
  rw [begins, split]
  exact ⟨_, bind_of_error failed, fun _ => held.old_mem⟩

/-- If no node is identified, a join with itself joins the old nodes to each other and then fails at
the copy of the first: it is to be joined to them, and it is nowhere. -/
theorem join_same_unplaced (wf : first.WellFormed) {rest : List NodeId}
    (cut : first.nodes = node :: rest)
    (unset : ∀ other ∈ first.nodes, values.target? other = none)
    (valid : values.PointsInto first first) :
    ∃ g, join .same values first =
        .error (.missingKey (handleOf first.nextNode first.nodes node)) g ∧
      ∀ old ∈ first.nodes, old ∈ g.nodes := by
  obtain ⟨images, g, held, begins⟩ := join_same_begins wf valid
  have idle : (first.nodes.map (handleOf first.nextNode first.nodes)).foldlM
      (settle .same ⟨values.identifications first.nodes⟩) images g = .ok images g := by
    refine foldlM_idle fun copy listed => ?_
    obtain ⟨other, member, rfl⟩ := List.mem_map.mp listed
    exact settle_copy_idle wf held member (unset other member)
  have all : g.nodes = first.nodes ++ first.nodes.map (handleOf first.nextNode first.nodes) := by
    rw [held.nodes_eq, standing, List.filter_eq_self.mpr fun other member => by
      simp [unset other member]]
  have drawn : Draws g.nodes (first.nodes.forM (crossEdges first.nodes images)) ()
      (crossPairs first.nodes first.nodes (values.placeFrom first.nextNode first.nodes)) :=
    crossEdges_draws
      (fun other member => by rw [held.images_eq other member, placeAfter_all member])
      (fun _ old => held.old_mem old) (fun _ member => held.place_mem valid member)
  have unplaced : images.fetch (handleOf first.nextNode first.nodes node) =
      .error (.missingKey (handleOf first.nextNode first.nodes node)) := by
    have missing : handleOf first.nextNode first.nodes node ∉ images.keys := by
      rw [held.keys_eq]
      exact copy_not_mem wf node
    have absent := Table.lookup_eq_none missing
    rw [Table.fetch, Table.get?, absent]
  have onward := forM_append_of_ok (drawn g rfl)
    (first.nodes.map (handleOf first.nextNode first.nodes))
  rw [← all, cut, List.map_cons, ← cut] at onward
  have read : Operand.same.read g = .ok g g := rfl
  have stops := onward.trans (bind_of_error (bind_of_error (query_of_error unplaced)))
  rw [begins]
  exact ⟨_, (bind_of_ok idle).trans ((bind_of_ok read).trans (bind_of_error stops)),
    fun _ => held.old_mem⟩

/-- A join with itself fails when the graph has nodes. The key that it lacks is the copy of the
first identified node or, if there is none, of the first node. The nodes that were there before have
not gone. -/
theorem join_same_stuck (wf : first.WellFormed) (valid : values.PointsInto first first)
    (stuck : (first.nodes.find? fun other => (values.get? other).isSome).or first.nodes.head? =
      some node) :
    ∃ g, join .same values first =
        .error (.missingKey (handleOf first.nextNode first.nodes node)) g ∧
      ∀ old ∈ first.nodes, old ∈ g.nodes := by
  cases found : first.nodes.find? fun other => (values.get? other).isSome with
  | some identified =>
    rw [found, Option.some_or] at stuck
    obtain rfl := Option.some.inj stuck
    exact join_same_absorbed wf valid found
  | none =>
    rw [found, Option.none_or] at stuck
    cases nodes : first.nodes with
    | nil =>
      rw [nodes] at stuck
      cases stuck
    | cons head rest =>
      rw [nodes] at stuck
      obtain rfl := Option.some.inj stuck
      rw [← nodes]
      refine join_same_unplaced wf nodes (fun other member => ?_) valid
      have unset : values.get? other = none := by
        simpa using List.find?_eq_none.mp found other member
      rw [Assignment.target?, unset]

/-- A join with itself is nothing when the graph has no nodes. -/
theorem join_same_empty (wf : first.WellFormed) (empty : first.nodes = []) (values : Assignment) :
    ∃ event g, join .same values first = .ok (⟨[]⟩, event) g := by
  have valid : values.PointsInto first first := fun node held => by simp [empty] at held
  obtain ⟨images, g, held, begins⟩ := join_same_begins wf valid
  have none_left : g.nodes = [] := by
    rw [held.nodes_eq, empty]
    rfl
  have none_placed : images = ⟨[]⟩ := by
    have keys := held.keys_eq
    rw [empty, Table.keys, List.map_eq_nil_iff] at keys
    exact congrArg Table.mk keys
  have read : Operand.same.read g = .ok g g := rfl
  have removed := removeParallel_run held.wellFormed.ids_nodup false
  have settled : ([] : List NodeId).foldlM (settle .same ⟨values.identifications []⟩)
      (⟨[]⟩ : Table NodeId NodeId) g = .ok ⟨[]⟩ g := rfl
  have crossed : g.nodes.forM (crossEdges [] ⟨[]⟩) g = .ok () g := by
    rw [none_left]
    rfl
  rw [begins, empty, none_placed]
  exact ⟨_, _, (bind_of_ok settled).trans ((bind_of_ok read).trans
    ((bind_of_ok crossed).trans (bind_of_ok removed)))⟩

end Graph

end Multigraph
