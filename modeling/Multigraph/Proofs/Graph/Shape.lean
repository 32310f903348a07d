import Multigraph.Proofs.Correspondence
import Multigraph.Proofs.Operation.Alike
import Multigraph.Proofs.Product.Alike

/-!
The shape of a graph is what is left of it when handles are told by their places: how many nodes
there are, and between which places the edges run. Well-formed graphs of one shape are alike
(`exists_pairing`), and alike graphs are of one shape (`Pairing.Graphs.shape_eq`). Correspondences
and grids have places instead of handles in the same way (`Assignment.layout`, `Grid.cells`).
-/
namespace Multigraph

/-- The place of a node among the nodes. Every handle that is no node comes behind all of them. -/
def Graph.position (g : Graph) (node : NodeId) : Nat := g.nodes.idxOf node

/-- How many nodes a graph has, and the places of the ends of its edges. -/
structure Shape where
  nodeCount : Nat
  ends : List (Nat × Nat)
  deriving DecidableEq

def Graph.shape (g : Graph) : Shape where
  nodeCount := g.nodes.length
  ends := g.edges.map fun e => (g.position e.source, g.position e.target)

/-- The place of a value among the nodes. -/
def Value.position (g : Graph) : Value → Nat
  | .int node => g.position node
  | .text _ => g.nodes.length

/-- The places that a correspondence gives to the nodes of its graph, one after the other, as far as
they are set. -/
abbrev Layout := List (Option Nat)

def Assignment.layout (values : Assignment) (domain codomain : Graph) : Layout :=
  domain.nodes.map fun node => (values.get? node).map (Value.position codomain)

/-- The places of the pairs of a grid with those of their nodes. -/
def Grid.cells (grid : Grid) (first second destination : Graph) : List ((Nat × Nat) × Nat) :=
  grid.items.map fun item =>
    ((first.position item.1.1, second.position item.1.2), destination.position item.2)

/-! ## Matching by place -/

/-- Members of an increasing list compare as their places do. -/
theorem lt_iff_of_increasing {l : List Int} (increasing : l.Pairwise (· < ·)) {i j : Nat}
    {a b : Int} (first : l[i]? = some a) (second : l[j]? = some b) : a < b ↔ i < j := by
  obtain ⟨within, rfl⟩ := List.getElem?_eq_some_iff.mp first
  obtain ⟨within', rfl⟩ := List.getElem?_eq_some_iff.mp second
  have ordered := List.pairwise_iff_getElem.mp increasing
  constructor
  · intro less
    rcases Nat.lt_trichotomy i j with before | same | behind
    · exact before
    · subst same
      exact absurd less (Int.lt_irrefl _)
    · exact absurd less (Int.lt_asymm (ordered j i within' within behind))
  · exact ordered i j within within'

/-- The handles of two increasing lists at the same places match, and so do the handles that come
from two counters above them. -/
def Matching.byPlace {l m : List Int} {first other : Int} (increasing : l.Pairwise (· < ·))
    (increasing' : m.Pairwise (· < ·)) (below : ∀ a ∈ l, a < first) (below' : ∀ b ∈ m, b < other) :
    Matching where
  Pairs a b := (∃ i, l[i]? = some a ∧ m[i]? = some b) ∨
    ∃ k : Nat, a = first + k ∧ b = other + k
  lt_iff := by
    intro a b c d old new
    rcases old with ⟨i, here, there⟩ | ⟨k, rfl, rfl⟩
    · have under := below a (List.mem_of_getElem? here)
      have under' := below' b (List.mem_of_getElem? there)
      rcases new with ⟨j, here', there'⟩ | ⟨n, rfl, rfl⟩
      · rw [lt_iff_of_increasing increasing here here',
          lt_iff_of_increasing increasing' there there']
      · omega
    · rcases new with ⟨j, here', there'⟩ | ⟨n, rfl, rfl⟩
      · have under := below c (List.mem_of_getElem? here')
        have under' := below' d (List.mem_of_getElem? there')
        omega
      · omega

/-- Two lists of one length are related by place. -/
theorem forall₂_byPlace {α β : Type} {R : α → β → Prop} {l : List α} {m : List β}
    (same : l.length = m.length)
    (related : ∀ (i : Nat) a b, l[i]? = some a → m[i]? = some b → R a b) : List.Forall₂ R l m :=
  List.forall₂_iff_get.mpr ⟨same, fun i within within' =>
    related i _ _ (List.getElem?_eq_getElem within) (List.getElem?_eq_getElem within')⟩

namespace Graph

variable {g h : Graph} {u x : NodeId}

theorem position_lt : g.position u < g.nodes.length ↔ u ∈ g.nodes := List.idxOf_lt_length_iff

/-- Handles at the same place of two graphs with as many nodes are nodes of them alike. -/
theorem mem_iff_of_position (counts : g.nodes.length = h.nodes.length)
    (places : g.position u = h.position x) : u ∈ g.nodes ↔ x ∈ h.nodes := by
  rw [← position_lt, ← position_lt, places, counts]

theorem getElem?_position (held : u ∈ g.nodes) : g.nodes[g.position u]? = some u :=
  List.getElem?_idxOf held

/-- Well-formed graphs of one shape are alike, and their nodes are paired by place. -/
theorem exists_pairing (wf : g.WellFormed) (wf' : h.WellFormed) (same : g.shape = h.shape) :
    ∃ p : Pairing, p.Graphs g h ∧
      ∀ u x, u ∈ g.nodes → g.position u = h.position x → p.nodes u x := by
  have counts : g.nodes.length = h.nodes.length := congrArg Shape.nodeCount same
  have ends : g.edges.map _ = h.edges.map _ := congrArg Shape.ends same
  obtain ⟨nodes, listed⟩ : ∃ M : Matching, M = Matching.byPlace wf.nodes_increasing
      wf'.nodes_increasing (fun a held => (wf.nodes_below a held).2)
      fun b held => (wf'.nodes_below b held).2 := ⟨_, rfl⟩
  have ids : (g.edges.map Edge.id).Pairwise (· < ·) := List.pairwise_map.mpr wf.edges_increasing
  have ids' : (h.edges.map Edge.id).Pairwise (· < ·) := List.pairwise_map.mpr wf'.edges_increasing
  obtain ⟨edges, numbered⟩ : ∃ M : Matching, M = Matching.byPlace ids ids'
      (fun a held => by
        obtain ⟨e, member, rfl⟩ := List.mem_map.mp held
        exact (wf.edges_below e member).2)
      fun b held => by
        obtain ⟨e, member, rfl⟩ := List.mem_map.mp held
        exact (wf'.edges_below e member).2 := ⟨_, rfl⟩
  have paired : ∀ u x, u ∈ g.nodes → g.position u = h.position x → nodes u x := by
    intro u x held places
    have held' := (mem_iff_of_position counts places).mp held
    rw [listed]
    exact .inl ⟨g.position u, getElem?_position held, places ▸ getElem?_position held'⟩
  refine ⟨⟨nodes, edges⟩, ⟨?_, ?_, fun k => ?_, fun k => ?_⟩, paired⟩
  · rw [listed]
    exact forall₂_byPlace counts fun i a b here there => .inl ⟨i, here, there⟩
  · have lengths : g.edges.length = h.edges.length := by
      simpa only [List.length_map] using congrArg List.length ends
    refine forall₂_byPlace lengths fun i e f here there => ?_
    have places := congrArg (fun l : List (Nat × Nat) => l[i]?) ends
    simp only [List.getElem?_map, here, there, Option.map_some, Option.some.injEq,
      Prod.mk.injEq] at places
    have held := wf.ends_mem e (List.mem_of_getElem? here)
    refine ⟨?_, paired _ _ held.1 places.1, paired _ _ held.2 places.2⟩
    rw [numbered]
    exact .inl ⟨i, by rw [List.getElem?_map, here]; rfl, by rw [List.getElem?_map, there]; rfl⟩
  · rw [listed]
    exact .inr ⟨k, rfl, rfl⟩
  · rw [numbered]
    exact .inr ⟨k, rfl, rfl⟩

end Graph

/-! ## Places in alike graphs -/

namespace Pairing

variable {p q r : Pairing} {g h domain domain' codomain codomain' : Graph} {u x : Int}

theorem Graphs.position_eq (alike : p.Graphs g h) (node : p.nodes u x) :
    g.position u = h.position x := Matching.idxOf_eq alike.nodes node

theorem Graphs.shape_eq (alike : p.Graphs g h) : g.shape = h.shape := by
  have ends : List.Forall₂ (· = ·) (g.edges.map fun e => (g.position e.source, g.position e.target))
      (h.edges.map fun e => (h.position e.source, h.position e.target)) :=
    List.rel_map (fun e f edges => by
      rw [alike.position_eq edges.source, alike.position_eq edges.target]) alike.edges
  rw [List.forall₂_eq_eq_eq] at ends
  rw [Graph.shape, Graph.shape, alike.nodes.length_eq, ends]

theorem Graphs.value_position_eq (alike : p.Graphs g h) {value value' : Value}
    (values : p.nodes.Values value value') : value.position g = value'.position h := by
  obtain ⟨same⟩ := values
  exact alike.position_eq same

/-- Alike correspondences have the same layout. -/
theorem layout_eq (domains : p.Graphs domain domain') (codomains : q.Graphs codomain codomain')
    {values values' : Assignment} (same : values.Alike p q domain values') :
    values.layout domain codomain = values'.layout domain' codomain' := by
  have places : List.Forall₂ (· = ·) (values.layout domain codomain)
      (values'.layout domain' codomain') :=
    List.rel_map (fun u x both => by
      have read := same u x both.1 both.2
      generalize values.get? u = here, values'.get? x = there at read
      cases read with
      | none => rfl
      | some related => exact congrArg some (codomains.value_position_eq related))
      (Assignment.nodes_of_graphs domains)
  exact List.forall₂_eq_eq_eq ▸ places

/-- Alike grids have the same cells. -/
theorem cells_eq (firsts : p.Graphs domain domain') (seconds : q.Graphs codomain codomain')
    (destinations : r.Graphs g h) {grid grid' : Grid} (grids : grid.Alike p q r grid') :
    grid.cells domain codomain g = grid'.cells domain' codomain' h := by
  have cells : List.Forall₂ (· = ·) (grid.cells domain codomain g)
      (grid'.cells domain' codomain' h) :=
    List.rel_map (fun item item' both => by
      rw [firsts.position_eq both.1.1, seconds.position_eq both.1.2,
        destinations.position_eq both.2]) grids
  exact List.forall₂_eq_eq_eq ▸ cells

end Pairing

/-! ## Layouts -/

namespace Assignment

variable {p q : Pairing} {values values' : Assignment}
  {domain domain' codomain codomain' : Graph}

/-- A value is a node of the second graph exactly if its place is not behind all nodes. -/
theorem position_lt_iff {value : Value} :
    value.position codomain < codomain.nodes.length ↔
      ∃ image ∈ codomain.nodes, value = .int image := by
  cases value with
  | int node => simpa [Value.position] using Graph.position_lt
  | text s => simp [Value.position]

/-- Whether values point into the second graph can be told from the layout. -/
theorem pointsInto_iff_layout : values.PointsInto domain codomain ↔
    ∀ place ∈ values.layout domain codomain, ∀ i ∈ place, i < codomain.nodes.length := by
  simp only [layout, List.forall_mem_map, Option.mem_def, Option.map_eq_some_iff, PointsInto]
  constructor
  · rintro valid node held _ ⟨value, set, rfl⟩
    exact position_lt_iff.mpr (valid node held value set)
  · intro places node held value set
    exact position_lt_iff.mp (places node held _ ⟨value, set, rfl⟩)

/-- Correspondences of the same layout that point into the second graphs are alike. -/
theorem alike_of_layout (domains : p.Graphs domain domain')
    (paired : ∀ u x, u ∈ codomain.nodes → codomain.position u = codomain'.position x → q.nodes u x)
    (counts : codomain.nodes.length = codomain'.nodes.length)
    (valid : values.PointsInto domain codomain)
    (same : values.layout domain codomain = values'.layout domain' codomain') :
    values.Alike p q domain values' := by
  intro u x held node
  have places : (values.get? u).map (Value.position codomain) =
      (values'.get? x).map (Value.position codomain') := by
    have held' := (domains.mem_iff node).mp held
    have there := congrArg (fun l : Layout => l[domain.position u]?) same
    simp only [layout, List.getElem?_map] at there
    rw [Graph.getElem?_position held, domains.position_eq node,
      Graph.getElem?_position held'] at there
    exact Option.some.inj there
  cases set : values.get? u with
  | none =>
    rw [set, Option.map_none] at places
    rw [Option.map_eq_none_iff.mp places.symm]
    exact .none
  | some value =>
    rw [set, Option.map_some] at places
    obtain ⟨value', set', place⟩ := Option.map_eq_some_iff.mp places.symm
    obtain ⟨image, inside, rfl⟩ := valid u held value set
    have inside' : value'.position codomain' < codomain'.nodes.length := by
      rw [place, ← counts]
      exact Graph.position_lt.mpr inside
    obtain ⟨image', _, rfl⟩ := position_lt_iff.mp inside'
    rw [set']
    exact .some (.int (paired image image' inside place.symm))

end Assignment

end Multigraph
