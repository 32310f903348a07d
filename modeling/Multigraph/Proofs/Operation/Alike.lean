import Multigraph.Operation.Complement
import Multigraph.Operation.Intersection
import Multigraph.Operation.Join
import Multigraph.Operation.Union
import Multigraph.Proofs.Graph.Alike

/-!
Operations on graphs that are alike. Every operation is put together from reads, changes and loops
that simulate each other on alike graphs, and where it compares handles it asks for their order
only; so it simulates itself, reports the same numbers, and sends related nodes to related nodes. A
correspondence enters by the values that it gives to the nodes of its graph, which have to be
related nodes again (`Assignment.Alike`).
-/
namespace Multigraph

open Multigraph.Action

variable {p q : Pairing} {u v x y : Int}

/-! ## Correspondences -/

/-- Values that are related nodes. -/
inductive Matching.Values (M : Matching) : Value → Value → Prop where
  | int {a b : Int} (same : M a b) : Values M (.int a) (.int b)

namespace Assignment

/-- Related nodes of two graphs are unset or have related nodes for values. -/
def Alike (p q : Pairing) (domain : Graph) (values values' : Assignment) : Prop :=
  ∀ u x, u ∈ domain.nodes → p.nodes u x → Option.Rel q.nodes.Values (values.get? u) (values'.get? x)

variable {values values' : Assignment} {domain domain' codomain codomain' : Graph}

/-- The nodes of alike graphs side by side, with what is known of the first. -/
theorem nodes_of_graphs (alike : p.Graphs domain domain') :
    List.Forall₂ (fun u x => u ∈ domain.nodes ∧ p.nodes u x) domain.nodes domain'.nodes :=
  List.forall₂_and_left _ _ |>.mpr ⟨fun _ member => member, alike.nodes⟩

theorem Alike.unsetNodes (same : Alike p q domain values values')
    (alike : p.Graphs domain domain') :
    List.Forall₂ p.nodes (values.unsetNodes domain) (values'.unsetNodes domain') := by
  have filtered : List.Forall₂ (fun u x => u ∈ domain.nodes ∧ p.nodes u x)
      (values.unsetNodes domain) (values'.unsetNodes domain') :=
    filter_of_forall₂ (nodes_of_graphs alike) fun u x both => by
      have read := same u x both.1 both.2
      generalize values.get? u = here, values'.get? x = there at read
      cases read <;> rfl
  exact filtered.imp fun _ _ => And.right

theorem Alike.identify (same : Alike p q domain values values')
    (codomains : q.Graphs codomain codomain') (refuse : NodeId → Value → Failure)
    {found found' : Table NodeId NodeId} (tables : found.Matches p.nodes q.nodes found')
    (held : u ∈ domain.nodes) (node : p.nodes u x) :
    Yields (Table.Matches p.nodes q.nodes) (values.identify codomain refuse found u)
      (values'.identify codomain' refuse found' x) := by
  have read := same u x held node
  unfold Assignment.identify
  generalize values.get? u = here, values'.get? x = there at read
  cases read with
  | none => exact yields_ok tables
  | some related =>
    obtain ⟨image⟩ := related
    exact yields_ite (codomains.mem_iff image)
      (yields_ok (tables.insert p.nodes.biUnique node image))

/-- Alike correspondences identify related nodes with related nodes. -/
theorem Alike.resolve (same : Alike p q domain values values') (domains : p.Graphs domain domain')
    (codomains : q.Graphs codomain codomain') (refuse : NodeId → Value → Failure) :
    Yields (Table.Matches p.nodes q.nodes) (values.resolve domain codomain refuse)
      (values'.resolve domain' codomain' refuse) := by
  have loop : ∀ {l l' : List NodeId},
      List.Forall₂ (fun u x => u ∈ domain.nodes ∧ p.nodes u x) l l' →
      ∀ {found found' : Table NodeId NodeId}, found.Matches p.nodes q.nodes found' →
        Yields (Table.Matches p.nodes q.nodes) (l.foldlM (values.identify codomain refuse) found)
          (l'.foldlM (values'.identify codomain' refuse) found') := by
    intro l l' lists
    induction lists with
    | nil => exact fun tables => yields_ok tables
    | cons both _ ih =>
      intro found found' tables
      rw [List.foldlM_cons, List.foldlM_cons]
      exact yields_bind (same.identify codomains refuse tables both.1 both.2)
        fun _ _ next => ih next
  exact loop (nodes_of_graphs domains) .nil

/-- When matching images have been recorded, correspondences that were alike as far as they are not
overwritten are alike. -/
theorem Alike.recordImages (same : Alike p q domain values values')
    {images images' : Table NodeId NodeId} (tables : images.Matches p.nodes q.nodes images') :
    Alike p q domain (values.recordImages images) (values'.recordImages images') := by
  obtain ⟨entries⟩ := images
  obtain ⟨entries'⟩ := images'
  simp only [Table.Matches] at tables
  unfold Assignment.recordImages
  induction tables generalizing values values' with
  | nil => exact same
  | @cons entry entry' _ _ both _ ih =>
    refine ih fun u x held node => ?_
    rw [Table.get?_insert, Table.get?_insert]
    have key : entry.1 = u ↔ entry'.1 = x := Matching.eq_iff both.1 node
    by_cases here : entry.1 = u
    · rw [if_pos here, if_pos (key.mp here)]
      exact .some (.int both.2)
    · rw [if_neg here, if_neg fun there => here (key.mpr there)]
      exact same u x held node

theorem requireKey_yields (alike : p.Graphs domain domain') (node : p.nodes u x) :
    Yields (· = ·) (requireKey domain u) (requireKey domain' x) :=
  yields_ite (alike.mem_iff node) (yields_ok rfl)

end Assignment

namespace Graph

variable {second second' : Graph} {values values' : Assignment}

/-! ## Complement -/

theorem pairInScope_eq (policy : ComplementPolicy) (first : p.nodes u x) (other : p.nodes v y) :
    pairInScope policy u v = pairInScope policy x y := by
  simp only [pairInScope, ne_eq, Matching.le_iff first other, Matching.eq_iff first other]

theorem incidenceInScope_eq (policy : ComplementPolicy) {i j : Incidence}
    (seen : p.Incidences i j) : incidenceInScope policy i = incidenceInScope policy j := by
  rw [incidenceInScope, incidenceInScope, seen.atSource, pairInScope_eq policy seen.node seen.twin]

theorem sweepIncidence_simulates (policy : ComplementPolicy) {fresh fresh' : EdgeId}
    (counters : p.edges fresh fresh') {reached reached' : List NodeId}
    (lists : List.Forall₂ p.nodes reached reached') {i j : Incidence} (seen : p.Incidences i j) :
    Simulates p.Graphs (List.Forall₂ p.nodes) (sweepIncidence policy fresh reached i)
      (sweepIncidence policy fresh' reached' j) := by
  refine simulates_bind simulates_get fun g h alike => simulates_ite ?_ ?_ ?_
  · rw [incidenceInScope_eq policy seen, alike.hasEdge_eq seen.edge]
    simp only [p.edges.lt_iff seen.edge counters]
  · exact simulates_bind (deleteEdge_simulates seen.edge) fun _ _ _ =>
      simulates_pure (.cons seen.twin lists)
  · exact simulates_pure lists

theorem sweepPair_simulates (policy : ComplementPolicy) {reached reached' : List NodeId}
    (lists : List.Forall₂ p.nodes reached reached') (first : p.nodes u x) (other : p.nodes v y)
    (created : Nat) :
    Simulates p.Graphs (· = ·) (sweepPair policy reached u created v)
      (sweepPair policy reached' x created y) := by
  refine simulates_ite ?_ ?_ ?_
  · rw [pairInScope_eq policy first other]
    simp only [Matching.mem_iff lists other]
  · exact simulates_bind (simulates_discard (newEdge_simulates first other)) fun _ _ _ =>
      simulates_pure rfl
  · exact simulates_pure rfl

theorem sweepNode_simulates (policy : ComplementPolicy) {fresh fresh' : EdgeId}
    (counters : p.edges fresh fresh') (counts : Nat × Nat) (node : p.nodes u x) :
    Simulates p.Graphs (· = ·) (sweepNode policy fresh counts u)
      (sweepNode policy fresh' counts x) := by
  refine simulates_bind (atNode_simulates node fun _ _ alike => alike.incidences node) ?_
  intro incidences incidences' seen
  refine simulates_bind (simulates_foldlM seen (fun _ _ lists _ _ =>
    sweepIncidence_simulates policy counters lists) .nil) fun reached reached' lists => ?_
  refine simulates_bind simulates_get fun g h alike => ?_
  refine simulates_bind (simulates_foldlM alike.nodes ?_ rfl) ?_
  · rintro created _ rfl v y other
    exact sweepPair_simulates policy lists node other created
  · rintro created _ rfl
    rw [lists.length_eq]
    exact simulates_pure rfl

theorem complement_simulates (policy : ComplementPolicy) :
    Simulates p.Graphs (· = ·) (complement policy) (complement policy) := by
  refine simulates_bind simulates_get fun g h alike => ?_
  have counters : p.edges g.nextEdge h.nextEdge := by simpa using alike.nextEdge 0
  refine simulates_bind (simulates_foldlM alike.nodes ?_ rfl) ?_
  · rintro counts _ rfl u x node
    exact sweepNode_simulates policy counters counts node
  · rintro ⟨removed, created⟩ _ rfl
    exact simulates_pure rfl

/-! ## Unions -/

/-- Answers of operations that merge graphs: the images match, and the event is the same. -/
def Merged (p q : Pairing) : Table NodeId NodeId × Event → Table NodeId NodeId × Event → Prop :=
  Both (Table.Matches p.nodes q.nodes) (· = ·)

theorem addImage_simulates {images images' : Table NodeId NodeId}
    (tables : images.Matches q.nodes p.nodes images') (node : q.nodes u x) :
    Simulates p.Graphs (Table.Matches q.nodes p.nodes) (addImage images u) (addImage images' x) :=
  simulates_bind newNode_simulates fun _ _ image =>
    simulates_pure (tables.insert q.nodes.biUnique node image)

theorem drawEdge_simulates {images images' : Table NodeId NodeId}
    (tables : images.Matches q.nodes p.nodes images') {e f : Edge} (edges : q.Edges e f) :
    Simulates p.Graphs (· = ·) (drawEdge images e) (drawEdge images' f) :=
  simulates_bind (simulates_ofExcept (fetch_yields tables edges.source)) fun _ _ source =>
    simulates_bind (simulates_ofExcept (fetch_yields tables edges.target)) fun _ _ target =>
      simulates_discard (newEdge_simulates source target)

theorem applyPolicy_simulates (policy : UnionPolicy) :
    Simulates p.Graphs (· = ·) (applyPolicy policy) (applyPolicy policy) :=
  simulates_ite Iff.rfl (removeParallel_simulates policy.directed) (simulates_pure rfl)

theorem union_simulates (others : q.Graphs second second')
    (presets : values.Alike q p second values') (policy : UnionPolicy) :
    Simulates p.Graphs (Merged q p) (union second values policy)
      (union second' values' policy) := by
  refine simulates_bind simulates_get fun first first' firsts => ?_
  refine simulates_bind (simulates_ofExcept (presets.resolve others firsts _)) ?_
  intro identified identified' identifications
  refine simulates_bind (simulates_foldlM (presets.unsetNodes others) (fun _ _ tables _ _ =>
    addImage_simulates tables) identifications) fun images images' tables => ?_
  refine simulates_bind (simulates_forM others.edges fun _ _ => drawEdge_simulates tables) ?_
  intro _ _ _
  refine simulates_bind (applyPolicy_simulates policy) ?_
  rintro removed _ rfl
  refine simulates_bind simulates_get fun united united' alike => simulates_pure ⟨tables, ?_⟩
  rw [identifications.size_eq, nodeCount, nodeCount, alike.nodes.length_eq, edgeCount, edgeCount,
    alike.edges.length_eq]

theorem disjointUnion_simulates (others : q.Graphs second second') :
    Simulates p.Graphs (Table.Matches q.nodes p.nodes) (disjointUnion second)
      (disjointUnion second') :=
  simulates_bind (insert_simulates others) fun _ _ tables => simulates_pure tables

/-! ## Joins -/

/-- Reading a second graph that is not the changed one. -/
theorem read_simulates (others : q.Graphs second second') :
    Simulates p.Graphs q.Graphs (Operand.other second).read (Operand.other second').read :=
  simulates_bind simulates_get fun _ _ _ => simulates_pure others

theorem redirect_pairs {old new node old' new' node' : NodeId} (before : p.nodes old old')
    (after : p.nodes new new') (nodes : p.nodes node node') :
    p.nodes (redirect old new node) (redirect old' new' node') := by
  have same := Matching.eq_iff nodes before
  unfold redirect
  by_cases here : node = old
  · rw [if_pos here, if_pos (same.mp here)]
    exact after
  · rw [if_neg here, if_neg fun there => here (same.mpr there)]
    exact nodes

theorem absorb_simulates (old : p.nodes u x) (new : p.nodes v y) :
    Simulates p.Graphs (· = ·) (absorb u v) (absorb x y) := by
  refine simulates_bind (atNode_simulates old fun _ _ alike => alike.incidentEdges old) ?_
  intro edges edges' incident
  refine simulates_bind (simulates_forM incident fun e f both => ?_) fun _ _ _ =>
    deleteNode_simulates old
  exact simulates_discard (newEdge_simulates (redirect_pairs old new both.source)
    (redirect_pairs old new both.target))

theorem settle_simulates (others : q.Graphs second second')
    {identified identified' images images' : Table NodeId NodeId}
    (identifications : identified.Matches q.nodes p.nodes identified')
    (tables : images.Matches q.nodes p.nodes images') (node : q.nodes u x) :
    Simulates p.Graphs (Table.Matches q.nodes p.nodes) (settle (.other second) identified images u)
      (settle (.other second') identified' images' x) := by
  refine simulates_bind (read_simulates others) fun _ _ graphs => ?_
  refine simulates_bind (simulates_ofExcept (Assignment.requireKey_yields graphs node)) ?_
  intro _ _ _
  have found := identifications.get? q.nodes.biUnique node
  generalize identified.get? u = here, identified'.get? x = there at found
  cases found with
  | none => exact simulates_pure tables
  | some target =>
    refine simulates_bind (simulates_ofExcept (fetch_yields tables node)) fun _ _ copy => ?_
    exact simulates_bind (absorb_simulates copy target) fun _ _ _ =>
      simulates_pure (tables.insert q.nodes.biUnique node target)

theorem crossEdge_simulates (image : p.nodes u x) (node : p.nodes v y) :
    Simulates p.Graphs (· = ·) (crossEdge u v) (crossEdge x y) :=
  simulates_ite (Matching.eq_iff node image) (simulates_pure rfl)
    (simulates_discard (newEdge_simulates node image))

theorem crossEdges_simulates {old old' : List NodeId} (lists : List.Forall₂ p.nodes old old')
    {images images' : Table NodeId NodeId} (tables : images.Matches q.nodes p.nodes images')
    (node : q.nodes u x) :
    Simulates p.Graphs (· = ·) (crossEdges old images u) (crossEdges old' images' x) :=
  simulates_bind (simulates_ofExcept (fetch_yields tables node)) fun _ _ image =>
    simulates_forM lists fun _ _ => crossEdge_simulates image

theorem join_simulates (others : q.Graphs second second')
    (presets : values.Alike q p second values') :
    Simulates p.Graphs (Merged q p) (join (.other second) values)
      (join (.other second') values') := by
  refine simulates_bind simulates_get fun first first' firsts => ?_
  refine simulates_bind (simulates_ofExcept (presets.resolve others firsts _)) ?_
  intro identified identified' identifications
  refine simulates_bind (insert_simulates others) fun _ _ copies => ?_
  refine simulates_bind (read_simulates others) fun _ _ listed => ?_
  refine simulates_bind (simulates_foldlM listed.nodes (fun _ _ tables _ _ =>
    settle_simulates others identifications tables) copies) fun images images' tables => ?_
  refine simulates_bind (read_simulates others) fun _ _ again => ?_
  refine simulates_bind (simulates_forM again.nodes fun _ _ =>
    crossEdges_simulates firsts.nodes tables) fun _ _ _ => ?_
  refine simulates_bind (removeParallel_simulates false) ?_
  rintro removed _ rfl
  refine simulates_bind simulates_get fun joined joined' alike => simulates_pure ⟨tables, ?_⟩
  rw [identifications.size_eq, nodeCount, nodeCount, alike.nodes.length_eq, edgeCount, edgeCount,
    alike.edges.length_eq]

/-! ## Intersections -/

theorem trimEdge_simulates {images images' : Table NodeId NodeId}
    (tables : images.Matches p.nodes q.nodes images') (node : p.nodes u x)
    {beside beside' : List NodeId} (lists : List.Forall₂ q.nodes beside beside') (dropped : Nat)
    {e f : Edge} (edges : p.Edges e f) :
    Simulates p.Graphs (· = ·) (trimEdge images u beside dropped e)
      (trimEdge images' x beside' dropped f) := by
  refine simulates_bind (simulates_query fun _ _ alike => alike.opposite edges.id node) ?_
  intro twin twin' twins
  refine simulates_bind (simulates_ofExcept (fetch_yields tables twins)) fun _ _ image => ?_
  refine simulates_ite (Matching.mem_iff lists image) (simulates_pure rfl) ?_
  exact simulates_bind (deleteEdge_simulates edges.id) fun _ _ _ => simulates_pure rfl

theorem trimNode_simulates (others : q.Graphs second second')
    {images images' : Table NodeId NodeId} (tables : images.Matches p.nodes q.nodes images')
    (dropped : Nat) (node : p.nodes u x) :
    Simulates p.Graphs (· = ·) (trimNode (.other second) images dropped u)
      (trimNode (.other second') images' dropped x) := by
  refine simulates_bind (simulates_ofExcept (fetch_yields tables node)) fun _ _ image => ?_
  refine simulates_bind (read_simulates others) fun _ _ graphs => ?_
  refine simulates_bind (simulates_ofExcept (graphs.atNode image (graphs.neighbours image))) ?_
  intro beside beside' lists
  refine simulates_bind (atNode_simulates node fun _ _ alike => alike.incidentEdges node) ?_
  intro edges edges' incident
  refine simulates_foldlM incident ?_ rfl
  rintro count _ rfl e f both
  exact trimEdge_simulates tables node lists count both

/-- An intersection simulates itself on graphs that are alike, under correspondences that are alike
on their nodes. -/
theorem intersection_alike {first first' : Graph} (firsts : p.Graphs first first')
    (others : q.Graphs second second') (presets : values.Alike p q first values') {event : Event}
    {g : Graph} (ran : intersection (.other second) values first = .ok event g) :
    ∃ g', intersection (.other second') values' first' = .ok event g' ∧ p.Graphs g g' := by
  unfold intersection at ran
  suffices rest : ∃ event' g', intersection (.other second') values' first' = .ok event' g' ∧
      event = event' ∧ p.Graphs g g' by
    obtain ⟨_, g', ran', rfl, alike⟩ := rest
    exact ⟨g', ran', alike⟩
  refine simulates_from firsts ?_ ran
  refine simulates_bind (simulates_ofExcept (presets.resolve firsts others _)) ?_
  intro images images' tables
  have unset := presets.unsetNodes firsts
  refine simulates_bind (simulates_forM unset fun _ _ => deleteNode_simulates) fun _ _ _ => ?_
  refine simulates_bind simulates_get fun left left' remaining => ?_
  refine simulates_bind (simulates_foldlM remaining.nodes ?_ rfl) ?_
  · rintro dropped _ rfl u x node
    exact trimNode_simulates others tables dropped node
  rintro dropped _ rfl
  refine simulates_bind simulates_get fun common common' graphs => simulates_pure ?_
  rw [unset.length_eq, nodeCount, nodeCount, graphs.nodes.length_eq, edgeCount, edgeCount,
    graphs.edges.length_eq]

end Graph

end Multigraph
