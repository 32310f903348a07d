import Multigraph.Graph.Parallel
import Multigraph.Proofs.Action.Simulates
import Multigraph.Proofs.Table

/-!
Graphs that are alike up to their handles. A matching relates handles of one graph to handles of
another in the same order, and two graphs are alike under a matching of the nodes and one of the
edges when their nodes and edges are related place by place and so are all handles that they may
still give out (`Pairing.Graphs`). Alike graphs look alike from related nodes, and every change of a
graph simulates the same change at related handles; the matchings are never extended, because they
already relate the handles to come.
-/
namespace Multigraph

open Multigraph.Action

/-- A relation of handles that keeps their order. -/
structure Matching where
  Pairs : Int → Int → Prop
  lt_iff : ∀ {a b c d}, Pairs a b → Pairs c d → (a < c ↔ b < d)

instance : CoeFun Matching fun _ => Int → Int → Prop := ⟨Matching.Pairs⟩

namespace Matching

variable {M : Matching} {a b c d : Int}

theorem le_iff (first : M a b) (second : M c d) : a ≤ c ↔ b ≤ d := by
  have reversed := M.lt_iff second first
  omega

theorem eq_iff (first : M a b) (second : M c d) : a = c ↔ b = d := by
  have before := M.lt_iff first second
  have after := M.lt_iff second first
  omega

theorem biUnique (M : Matching) : Relator.BiUnique M.Pairs :=
  ⟨fun _ _ _ first second => (eq_iff first second).mpr rfl,
    fun _ _ _ first second => (eq_iff first second).mp rfl⟩

/-- Related handles are members of related lists alike. -/
theorem mem_iff {l m : List Int} (lists : List.Forall₂ M l m) (related : M a b) :
    a ∈ l ↔ b ∈ m := List.rel_mem M.biUnique related lists

/-- Related handles have the same place in related lists. -/
theorem idxOf_eq {l m : List Int} (lists : List.Forall₂ M l m) (related : M a b) :
    l.idxOf a = m.idxOf b := by
  induction lists with
  | nil => rfl
  | @cons c d _ _ first _ ih =>
    have same : (c == a) = (d == b) := by
      rw [beq_eq_decide, beq_eq_decide]
      exact decide_eq_decide.mpr (eq_iff first related)
    rw [List.idxOf_cons, List.idxOf_cons, same, ih]

end Matching

/-- A matching of nodes and one of edges. -/
structure Pairing where
  nodes : Matching
  edges : Matching

namespace Pairing

/-- Edges with related handles between related ends. -/
structure Edges (p : Pairing) (e f : Edge) : Prop where
  id : p.edges e.id f.id
  source : p.nodes e.source f.source
  target : p.nodes e.target f.target

/-- Related edges seen from related ends. -/
structure Incidences (p : Pairing) (i j : Incidence) : Prop where
  edge : p.edges i.edge j.edge
  node : p.nodes i.node j.node
  twin : p.nodes i.twin j.twin
  atSource : i.atSource = j.atSource

/-- Graphs whose nodes and edges are related place by place, and that give out related handles from
now on. -/
structure Graphs (p : Pairing) (g h : Graph) : Prop where
  nodes : List.Forall₂ p.nodes g.nodes h.nodes
  edges : List.Forall₂ p.Edges g.edges h.edges
  nextNode : ∀ k : Nat, p.nodes (g.nextNode + k) (h.nextNode + k)
  nextEdge : ∀ k : Nat, p.edges (g.nextEdge + k) (h.nextEdge + k)

end Pairing

/-! ## Lists side by side -/

section Lists

variable {α β : Type} {R : α → β → Prop} {l : List α} {l' : List β} {p : α → Bool} {q : β → Bool}

theorem any_eq_of_forall₂ (lists : List.Forall₂ R l l') (same : ∀ a b, R a b → p a = q b) :
    l.any p = l'.any q := by
  induction lists with
  | nil => rfl
  | cons related _ ih => rw [List.any_cons, List.any_cons, same _ _ related, ih]

theorem filter_of_forall₂ (lists : List.Forall₂ R l l') (same : ∀ a b, R a b → p a = q b) :
    List.Forall₂ R (l.filter p) (l'.filter q) :=
  List.rel_filter (fun a b related => Bool.eq_iff_iff.mp (same a b related)) lists

theorem find?_of_forall₂ (lists : List.Forall₂ R l l') (same : ∀ a b, R a b → p a = q b) :
    Option.Rel R (l.find? p) (l'.find? q) := by
  induction lists with
  | nil => exact .none
  | @cons a b _ _ related _ ih =>
    rw [List.find?_cons, List.find?_cons, ← same a b related]
    cases p a with
    | true => exact .some related
    | false => exact ih

end Lists

/-! ## The same views -/

namespace Pairing

variable {p : Pairing} {e f : Edge} {g h : Graph} {u v x y : Int}

theorem Edges.runs_eq (edges : p.Edges e f) (first : p.nodes u x) (second : p.nodes v y) :
    e.runs u v = f.runs x y := by
  simp only [Edge.runs, Matching.eq_iff edges.source first, Matching.eq_iff edges.target second]

theorem Edges.joins_eq (edges : p.Edges e f) (first : p.nodes u x) (second : p.nodes v y) :
    e.joins u v = f.joins x y := by
  rw [Edge.joins, Edge.joins, edges.runs_eq first second, edges.runs_eq second first]

theorem Edges.touches_eq (edges : p.Edges e f) (node : p.nodes u x) :
    e.touches u = f.touches x := by
  simp only [Edge.touches, Matching.eq_iff edges.source node, Matching.eq_iff edges.target node]

theorem Edges.bundle (edges : p.Edges e f) (directed : Bool) :
    Both p.nodes p.nodes (e.bundle directed) (f.bundle directed) := by
  have order := Matching.le_iff edges.source edges.target
  unfold Edge.bundle
  by_cases kept : directed ∨ e.source ≤ e.target
  · rw [if_pos kept, if_pos (kept.imp_right order.mp)]
    exact ⟨edges.source, edges.target⟩
  · rw [if_neg kept, if_neg fun other => kept (other.imp_right order.mpr)]
    exact ⟨edges.target, edges.source⟩

theorem Edges.incidencesAt (edges : p.Edges e f) (node : p.nodes u x) :
    List.Forall₂ p.Incidences (e.incidencesAt u) (f.incidencesAt x) := by
  have atSource := Matching.eq_iff edges.source node
  have atTarget := Matching.eq_iff edges.target node
  unfold Edge.incidencesAt
  refine List.rel_append ?_ ?_
  · by_cases here : e.source = u
    · rw [if_pos here, if_pos (atSource.mp here)]
      exact .cons ⟨edges.id, node, edges.target, rfl⟩ .nil
    · rw [if_neg here, if_neg fun there => here (atSource.mpr there)]
      exact .nil
  · by_cases here : e.target = u
    · rw [if_pos here, if_pos (atTarget.mp here)]
      exact .cons ⟨edges.id, node, edges.source, rfl⟩ .nil
    · rw [if_neg here, if_neg fun there => here (atTarget.mpr there)]
      exact .nil

namespace Graphs

theorem mem_iff (alike : p.Graphs g h) (node : p.nodes u x) : u ∈ g.nodes ↔ x ∈ h.nodes :=
  Matching.mem_iff alike.nodes node

theorem requireNode (alike : p.Graphs g h) (node : p.nodes u x) :
    Yields (· = ·) (g.requireNode u) (h.requireNode x) :=
  yields_ite (alike.mem_iff node) (yields_ok rfl)

theorem atNode {α β : Type} {P : α → β → Prop} {view : Graph → NodeId → α}
    {other : Graph → NodeId → β} (alike : p.Graphs g h) (node : p.nodes u x)
    (related : P (view g u) (other h x)) : Yields P (g.atNode view u) (h.atNode other x) :=
  yields_bind (alike.requireNode node) fun _ _ _ => yields_ok related

theorem hasEdge_eq (alike : p.Graphs g h) {edge edge' : EdgeId} (same : p.edges edge edge') :
    g.hasEdge edge = h.hasEdge edge' :=
  any_eq_of_forall₂ alike.edges fun e f edges => by
    simp only [Matching.eq_iff edges.id same]

theorem edge (alike : p.Graphs g h) {edge edge' : EdgeId} (same : p.edges edge edge') :
    Yields p.Edges (g.edge edge) (h.edge edge') := by
  have found : Option.Rel p.Edges (g.edge? edge) (h.edge? edge') :=
    find?_of_forall₂ alike.edges fun e f edges => by simp only [Matching.eq_iff edges.id same]
  unfold Graph.edge
  generalize g.edge? edge = here, h.edge? edge' = there at found
  cases found with
  | none => exact yields_error _ _
  | some edges => exact yields_ok edges

theorem incidentEdges (alike : p.Graphs g h) (node : p.nodes u x) :
    List.Forall₂ p.Edges (g.incidentEdges u) (h.incidentEdges x) :=
  filter_of_forall₂ alike.edges fun _ _ edges => edges.touches_eq node

theorem incidences (alike : p.Graphs g h) (node : p.nodes u x) :
    List.Forall₂ p.Incidences (g.incidences u) (h.incidences x) :=
  List.rel_flatMap (alike.incidentEdges node) fun _ _ edges => edges.incidencesAt node

theorem adjacent_eq (alike : p.Graphs g h) (first : p.nodes u x) (second : p.nodes v y) :
    g.adjacent u v = h.adjacent x y :=
  any_eq_of_forall₂ alike.edges fun _ _ edges => edges.joins_eq first second

theorem neighbours (alike : p.Graphs g h) (node : p.nodes u x) :
    List.Forall₂ p.nodes (g.neighbours u) (h.neighbours x) :=
  filter_of_forall₂ alike.nodes fun _ _ other => alike.adjacent_eq node other

theorem later (alike : p.Graphs g h) (node : p.nodes u x) :
    List.Forall₂ p.nodes (g.later u) (h.later x) :=
  filter_of_forall₂ alike.nodes fun _ _ other => by simp only [p.nodes.lt_iff node other]

theorem successors (alike : p.Graphs g h) (node : p.nodes u x) :
    List.Forall₂ p.nodes (g.successors u) (h.successors x) :=
  List.rel_map (fun _ _ seen => seen.twin)
    (filter_of_forall₂ (alike.incidences node) fun _ _ seen => seen.atSource)

theorem twins (alike : p.Graphs g h) (node : p.nodes u x) :
    List.Forall₂ p.nodes (g.twins u) (h.twins x) :=
  List.rel_map (fun _ _ seen => seen.twin) (alike.incidences node)

theorem opposite (alike : p.Graphs g h) {edge edge' : EdgeId} (same : p.edges edge edge')
    (node : p.nodes u x) : Yields p.nodes (g.opposite edge u) (h.opposite edge' x) := by
  refine yields_bind (alike.edge same) fun e f edges => ?_
  have atSource := Matching.eq_iff node edges.source
  have atTarget := Matching.eq_iff node edges.target
  by_cases here : u = e.source
  · rw [if_pos here, if_pos (atSource.mp here)]
    exact yields_ok edges.target
  · rw [if_neg here, if_neg fun there => here (atSource.mpr there)]
    by_cases there : u = e.target
    · rw [if_pos there, if_pos (atTarget.mp there)]
      exact yields_ok edges.source
    · rw [if_neg there]
      exact yields_error _ _

/-! ## The same changes -/

theorem add_succ (first : Int) (k : Nat) : first + (k + 1 : Nat) = first + 1 + k := by omega

theorem withNode (alike : p.Graphs g h) : p.Graphs g.withNode h.withNode where
  nodes := List.rel_append alike.nodes (.cons (by simpa using alike.nextNode 0) .nil)
  edges := alike.edges
  nextNode k := by
    have later := alike.nextNode (k + 1)
    rw [add_succ, add_succ] at later
    exact later
  nextEdge := alike.nextEdge

theorem withEdge (alike : p.Graphs g h) (source : p.nodes u x) (target : p.nodes v y) :
    p.Graphs (g.withEdge u v) (h.withEdge x y) where
  nodes := alike.nodes
  edges := List.rel_append alike.edges
    (.cons ⟨by simpa using alike.nextEdge 0, source, target⟩ .nil)
  nextNode := alike.nextNode
  nextEdge k := by
    have later := alike.nextEdge (k + 1)
    rw [add_succ, add_succ] at later
    exact later

theorem withoutEdge (alike : p.Graphs g h) {edge edge' : EdgeId} (same : p.edges edge edge') :
    p.Graphs (g.withoutEdge edge) (h.withoutEdge edge') where
  nodes := alike.nodes
  edges := filter_of_forall₂ alike.edges fun _ _ edges => by
    simp only [ne_eq, Matching.eq_iff edges.id same]
  nextNode := alike.nextNode
  nextEdge := alike.nextEdge

theorem withoutNode (alike : p.Graphs g h) (node : p.nodes u x) :
    p.Graphs (g.withoutNode u) (h.withoutNode x) where
  nodes := filter_of_forall₂ alike.nodes fun _ _ other => by
    simp only [ne_eq, Matching.eq_iff other node]
  edges := filter_of_forall₂ alike.edges fun _ _ edges => by rw [edges.touches_eq node]
  nextNode := alike.nextNode
  nextEdge := alike.nextEdge

end Graphs

end Pairing

namespace Graph

variable {p q : Pairing} {u v x y : Int}

theorem newNode_simulates : Simulates p.Graphs p.nodes newNode newNode :=
  simulates_modifyGet fun _ _ alike => ⟨by simpa using alike.nextNode 0, alike.withNode⟩

theorem requireNode_simulates (node : p.nodes u x) :
    Simulates p.Graphs (· = ·) (query (requireNode · u)) (query (requireNode · x)) :=
  simulates_query fun _ _ alike => alike.requireNode node

theorem newEdge_simulates (source : p.nodes u x) (target : p.nodes v y) :
    Simulates p.Graphs p.edges (newEdge u v) (newEdge x y) :=
  simulates_bind (requireNode_simulates source) fun _ _ _ =>
    simulates_bind (requireNode_simulates target) fun _ _ _ =>
      simulates_modifyGet fun _ _ alike =>
        ⟨by simpa using alike.nextEdge 0, alike.withEdge source target⟩

theorem deleteEdge_simulates {edge edge' : EdgeId} (same : p.edges edge edge') :
    Simulates p.Graphs (· = ·) (deleteEdge edge) (deleteEdge edge') :=
  simulates_bind (simulates_query fun _ _ alike => alike.edge same) fun _ _ edges =>
    simulates_modify fun _ _ alike => alike.withoutEdge edges.id

theorem deleteNode_simulates (node : p.nodes u x) :
    Simulates p.Graphs (· = ·) (deleteNode u) (deleteNode x) :=
  simulates_bind (requireNode_simulates node) fun _ _ _ =>
    simulates_modify fun _ _ alike => alike.withoutNode node

/-- A view of a graph at a related node. -/
theorem atNode_simulates {α β : Type} {P : α → β → Prop} {view : Graph → NodeId → α}
    {other : Graph → NodeId → β} (node : p.nodes u x)
    (related : ∀ g h, p.Graphs g h → P (view g u) (other h x)) :
    Simulates p.Graphs P (query (Graph.atNode · view u)) (query (Graph.atNode · other x)) :=
  simulates_query fun _ _ alike => alike.atNode node (related _ _ alike)

/-! ## Parallel edges -/

/-- Of related lists the same edges are parallel to earlier ones. -/
theorem repeated_of_forall₂ {l m : List Edge} (edges : List.Forall₂ p.Edges l m)
    (directed : Bool) {seen seen' : List (NodeId × NodeId)}
    (bundles : List.Forall₂ (Both p.nodes p.nodes) seen seen') :
    List.Forall₂ p.Edges (repeated directed seen l) (repeated directed seen' m) := by
  induction edges generalizing seen seen' with
  | nil => exact .nil
  | @cons e f _ _ related _ ih =>
    have bundle := related.bundle directed
    have again : e.bundle directed ∈ seen ↔ f.bundle directed ∈ seen' :=
      List.rel_mem (Both.biUnique p.nodes.biUnique p.nodes.biUnique) bundle bundles
    rw [repeated, repeated]
    by_cases before : e.bundle directed ∈ seen
    · rw [if_pos before, if_pos (again.mp before)]
      exact .cons related (ih bundles)
    · rw [if_neg before, if_neg fun there => before (again.mpr there)]
      exact ih (.cons bundle bundles)

theorem removeParallel_simulates (directed : Bool) :
    Simulates p.Graphs (· = ·) (removeParallel directed) (removeParallel directed) := by
  refine simulates_bind simulates_get fun g h alike => ?_
  have doomed : List.Forall₂ p.Edges (g.parallelEdges directed) (h.parallelEdges directed) :=
    repeated_of_forall₂ alike.edges directed .nil
  refine simulates_bind (simulates_forM doomed fun _ _ edges => deleteEdge_simulates edges.id) ?_
  exact fun _ _ _ => simulates_pure doomed.length_eq

/-! ## Insertion -/

/-- Related keys are fetched alike. -/
theorem fetch_yields {M N : Matching} {t t' : Table NodeId NodeId} (tables : t.Matches M N t')
    (keys : M u x) : Yields N (t.fetch u) (t'.fetch x) := by
  have found := tables.get? M.biUnique keys
  unfold Table.fetch
  generalize t.get? u = here, t'.get? x = there at found
  cases found with
  | none => exact yields_error _ _
  | some values => exact yields_ok values

theorem copyNode_simulates (node : q.nodes u x) :
    Simulates p.Graphs (Both q.nodes p.nodes) (copyNode u) (copyNode x) :=
  simulates_bind newNode_simulates fun _ _ copies => simulates_pure ⟨node, copies⟩

theorem copyEdge_simulates {image image' : Table NodeId NodeId}
    (images : image.Matches q.nodes p.nodes image') {e f : Edge} (edges : q.Edges e f) :
    Simulates p.Graphs (Both q.edges p.edges) (copyEdge image e) (copyEdge image' f) :=
  simulates_bind (simulates_ofExcept (fetch_yields images edges.source)) fun _ _ source =>
    simulates_bind (simulates_ofExcept (fetch_yields images edges.target)) fun _ _ target =>
      simulates_bind (newEdge_simulates source target) fun _ _ copies =>
        simulates_pure ⟨edges.id, copies⟩

/-- Inserting alike graphs into alike graphs sends related nodes to related nodes. -/
theorem insert_simulates {other other' : Graph} (others : q.Graphs other other') :
    Simulates p.Graphs (fun r s => r.nodes.Matches q.nodes p.nodes s.nodes) (insert other)
      (insert other') := by
  refine simulates_bind (simulates_mapM others.nodes fun _ _ => copyNode_simulates) ?_
  intro copies copies' nodes
  have images := Table.matches_ofList q.nodes.biUnique nodes
  refine simulates_bind (simulates_mapM others.edges fun _ _ => copyEdge_simulates images) ?_
  exact fun _ _ _ => simulates_pure images

end Graph

end Multigraph
