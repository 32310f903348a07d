import Multigraph.Proofs.Operation.Command
import Multigraph.Proofs.Operation.Intersection

/-!
Operations whose results are simple. Joins, and unions without parallel edges, join two nodes at
most once, so what is to be shown is that they have no loops. A loop could come only from an edge of
the second graph whose ends go to one place; they do not if the identifications are distinct
(`placeFrom_inj`). An intersection only takes away, so it keeps a simple graph simple wherever it
stops (`intersection_loses`).
-/
namespace Multigraph

open Multigraph.Action

namespace Assignment

/-- No two of some nodes have the same value. -/
def Separates (values : Assignment) (nodes : List NodeId) : Prop :=
  ∀ a ∈ nodes, ∀ b ∈ nodes, ∀ value, values.get? a = some value → values.get? b = some value → a = b

instance (values : Assignment) (nodes : List NodeId) : Decidable (values.Separates nodes) :=
  inferInstanceAs (Decidable (∀ a ∈ nodes, ∀ b ∈ nodes, ∀ value ∈ values.get? a,
    values.get? b = some value → a = b))

variable {values : Assignment} {first second : Graph}

/-- If no two nodes are identified with one, different nodes go to different places: an identified
node goes to an old node, and any other to a new handle of its own. -/
theorem placeFrom_inj (wf : first.WellFormed) (valid : values.PointsInto second first)
    (separates : values.Separates second.nodes) {nodes : List NodeId}
    (listed : ∀ a ∈ second.nodes, values.target? a = none → a ∈ nodes) {a b : NodeId}
    (held : a ∈ second.nodes) (other : b ∈ second.nodes)
    (same : values.placeFrom first.nextNode nodes a = values.placeFrom first.nextNode nodes b) :
    a = b := by
  cases set : values.target? a with
  | some t =>
    cases set' : values.target? b with
    | some t' =>
      rw [Graph.placeFrom_set set, Graph.placeFrom_set set'] at same
      subst same
      exact separates a held b other _ (target?_eq_some.mp set) (target?_eq_some.mp set')
    | none =>
      rw [Graph.placeFrom_set set, Graph.placeFrom_unset set'] at same
      have before := valid.target_lt wf held set
      have new := le_handleOf first.nextNode nodes b
      lia
  | none =>
    rw [Graph.placeFrom_unset set] at same
    cases set' : values.target? b with
    | some t' =>
      rw [Graph.placeFrom_set set'] at same
      have before := valid.target_lt wf other set'
      have new := le_handleOf first.nextNode nodes a
      lia
    | none =>
      rw [Graph.placeFrom_unset set'] at same
      exact handleOf_inj (listed a held set) same

end Assignment

namespace Graph

variable {g first second after : Graph} {values : Assignment} {place : NodeId → NodeId}

/-- In a graph without loops the ends of an edge differ. -/
theorem ends_ne (straight : g.hasLoops = false) {e : Edge} (member : e ∈ g.edges) :
    e.source ≠ e.target := by
  intro same
  have loop := List.any_eq_false.mp straight e member
  exact loop (decide_eq_true same)

/-! ## Join -/

/-- A join whose places are distinct has no loops if the two graphs have none. -/
theorem Joins.hasLoops_eq (joins : Joins first second values place after)
    (other : second.WellFormed) (straight : first.hasLoops = false)
    (straight' : second.hasLoops = false)
    (inj : ∀ a ∈ second.nodes, ∀ b ∈ second.nodes, place a = place b → a = b) :
    after.hasLoops = false := by
  apply hasLoops_eq_false_iff.mpr
  intro u
  have counted := joins.joined_once s(u, u)
  rw [if_neg] at counted
  · rw [← countP_joins_self, ← counted]
    exact List.countP_congr fun e _ => by rw [Edge.joins_iff_pair, decide_eq_true_eq]
  · rintro (⟨e, member, pair⟩ | ⟨e, member, pair⟩ | ⟨n, _, node, _, apart, pair⟩)
    · obtain ⟨source, target⟩ := (Sym2.eq_iff.mp pair).elim id id
      exact ends_ne straight member (source.trans target.symm)
    · obtain ⟨source, target⟩ := (Sym2.eq_iff.mp pair).elim id id
      obtain ⟨held, held'⟩ := other.ends_mem e member
      exact ends_ne straight' member (inj _ held _ held' (source.trans target.symm))
    · obtain ⟨source, target⟩ := (Sym2.eq_iff.mp pair).elim id id
      exact apart (source.trans target.symm)

theorem Joins.isSimple (joins : Joins first second values place after)
    (straight : after.hasLoops = false) : after.isSimple = true := by
  apply isSimple_of_joined_once straight
  intro u v
  have counted := joins.joined_once s(u, v)
  have same : after.edges.countP (fun e => e.joins u v) =
      after.edges.countP fun e => e.pair = s(u, v) :=
    List.countP_congr fun e _ => by rw [Edge.joins_iff_pair, decide_eq_true_eq]
  rw [same, counted]
  split <;> omega

/-! ## Union -/

/-- A union whose places are distinct has no loops if the two graphs have none. -/
theorem hasLoops_united (other : second.WellFormed) (straight : first.hasLoops = false)
    (straight' : second.hasLoops = false)
    (inj : ∀ a ∈ second.nodes, ∀ b ∈ second.nodes,
      values.unionPlace first.nextNode second a = values.unionPlace first.nextNode second b →
        a = b) : (united first second values).hasLoops = false := by
  apply List.any_eq_false.mpr
  intro e member loop
  have same : e.source = e.target := of_decide_eq_true loop
  cases List.mem_append.mp member with
  | inl old => exact ends_ne straight old same
  | inr drawn =>
    obtain ⟨f, listed, ends⟩ := List.mem_map.mp (Edge.ends_mem_of_mem_numbered drawn)
    obtain ⟨source, target⟩ := Prod.mk.inj ends
    obtain ⟨held, held'⟩ := other.ends_mem f listed
    exact ends_ne straight' listed (inj _ held _ held' (source.trans (same.trans target.symm)))

/-- Without loops and without parallel edges, whatever their direction, a graph is simple. -/
theorem isSimple_thinned (straight : g.hasLoops = false) :
    (thinned ⟨true, false⟩ g).isSimple = true := by
  apply isSimple_of_joined_once
  · apply List.any_eq_false.mpr
    intro e kept
    exact List.any_eq_false.mp straight e ((edges_thinned_sublist _ g).subset kept)
  · intro u v
    have counted : (thinned ⟨true, false⟩ g).edges.countP (fun e => e.joins u v) = _ :=
      countP_joins_firsts g u v
    rw [counted]
    split <;> omega

/-! ## Intersection -/

/-- A graph loses edges and gets no new ones. -/
def Loses (g h : Graph) : Prop := h.edges.Sublist g.edges

instance : IsPreorder Graph Loses where
  refl g := .refl g.edges
  trans _ _ _ earlier later := later.trans earlier

theorem deleteEdge_loses (edge : EdgeId) : Keeps Loses (deleteEdge edge) :=
  keeps_bind (keeps_query _) fun _ => keeps_modify fun _ => List.filter_sublist

theorem deleteNode_loses (node : NodeId) : Keeps Loses (deleteNode node) :=
  keeps_bind (keeps_query _) fun _ => keeps_modify fun _ => List.filter_sublist

theorem intersection_loses (second : Operand) (correspondence : Assignment) :
    Keeps Loses (intersection second correspondence) :=
  intersection_keeps deleteEdge_loses deleteNode_loses second correspondence

end Graph

end Multigraph
