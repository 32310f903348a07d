import Mathlib.SetTheory.Cardinal.NatCard
import Multigraph.Graph.Component
import Multigraph.Proofs.Graph.Simple

/-!
Connected components. A component is a class of nodes that hang together, and merging the labels
along all edges counts the classes: whatever edges have been merged, two nodes have one label when
these edges connect them (`Labelled.merge`), so in the end each class has one node that carries its
own handle (`represented_bijective`).

The components of a graph are told from its adjacent pairs alone (`componentCount_congr`). A part
that no edge leaves keeps its own components (`Part.connected_iff`), so two parts that make up a
graph have its components between them (`componentCount_eq_add`).
-/
namespace Multigraph.Graph

variable {g h : Graph} {u v : NodeId}

/-! ## Walks -/

theorem Connected.of_adjacent (joined : g.adjacent u v = true) : g.Connected u v :=
  .step joined (.here v)

theorem Connected.of_edge {e : Edge} (member : e ∈ g.edges) : g.Connected e.source e.target :=
  .of_adjacent (adjacent_of_mem member)

/-- What the ends of every edge have in common, connected nodes have in common. -/
theorem Connected.label_eq {α : Type} {label : NodeId → α}
    (along : ∀ e ∈ g.edges, label e.source = label e.target) (walk : g.Connected u v) :
    label u = label v := by
  induction walk with
  | here => rfl
  | step joined _ ih =>
    obtain ⟨e, member, ends⟩ := List.any_eq_true.mp joined
    have same := along e member
    simp only [Edge.joins, Edge.runs, Bool.or_eq_true, Bool.and_eq_true, decide_eq_true_eq] at ends
    rcases ends with ⟨rfl, rfl⟩ | ⟨rfl, rfl⟩
    · exact same.trans ih
    · exact same.symm.trans ih

/-- A walk goes along with a map under which adjacent nodes stay adjacent. -/
theorem Connected.image {place : NodeId → NodeId}
    (keeps : ∀ a b, h.adjacent a b = true → g.adjacent (place a) (place b) = true)
    (walk : h.Connected u v) : g.Connected (place u) (place v) := by
  induction walk with
  | here node => exact .here _
  | step joined _ ih => exact .step (keeps _ _ joined) ih

theorem Connected.mono (keeps : ∀ a b, h.adjacent a b = true → g.adjacent a b = true)
    (walk : h.Connected u v) : g.Connected u v := walk.image keeps

/-- Adjacent nodes are nodes of the graph. -/
theorem mem_of_adjacent (wf : g.WellFormed) (joined : g.adjacent u v = true) :
    u ∈ g.nodes ∧ v ∈ g.nodes := by
  obtain ⟨e, member, ends⟩ := List.any_eq_true.mp joined
  obtain ⟨source, target⟩ := wf.ends_mem e member
  simp only [Edge.joins, Edge.runs, Bool.or_eq_true, Bool.and_eq_true, decide_eq_true_eq] at ends
  rcases ends with ⟨rfl, rfl⟩ | ⟨rfl, rfl⟩
  · exact ⟨source, target⟩
  · exact ⟨target, source⟩

/-! ## Labels -/

/-- The graph with some of its edges only. -/
def withOnly (g : Graph) (edges : List Edge) : Graph := { g with edges := edges }

theorem adjacent_withOnly_append {edges : List Edge} (e : Edge)
    (joined : (g.withOnly edges).adjacent u v = true) :
    (g.withOnly (edges ++ [e])).adjacent u v = true := by
  simp only [adjacent, withOnly, List.any_append, Bool.or_eq_true] at joined ⊢
  exact .inl joined

/-- What the labels say when the edges `done` have been merged. -/
structure Labelled (g : Graph) (done : List Edge) (labels : Labelling) : Prop where
  keys_eq : labels.map Prod.fst = g.nodes
  label_mem : ∀ u ∈ g.nodes, labels.label u ∈ g.nodes
  /-- A node whose handle is a label has that label. -/
  label_label : ∀ u ∈ g.nodes, labels.label (labels.label u) = labels.label u
  label_eq_iff : ∀ u ∈ g.nodes, ∀ v ∈ g.nodes,
    labels.label u = labels.label v ↔ (g.withOnly done).Connected u v

namespace Labelling

variable {labels : Labelling} {node old new : NodeId}

theorem map_fst_relabel (labels : Labelling) (old new : NodeId) :
    (labels.relabel old new).map Prod.fst = labels.map Prod.fst := by
  rw [relabel, List.map_map]
  rfl

theorem label_relabel (member : node ∈ labels.map Prod.fst) (old new : NodeId) :
    (labels.relabel old new).label node =
      if labels.label node = old then new else labels.label node := by
  have found : (labels.find? fun entry => entry.1 = node).isSome = true := by
    obtain ⟨entry, listed, same⟩ := List.mem_map.mp member
    exact List.find?_isSome.mpr ⟨entry, listed, by simpa using same⟩
  obtain ⟨entry, first⟩ := Option.isSome_iff_exists.mp found
  have kept : (labels.relabel old new).find? (fun entry => entry.1 = node) =
      some (entry.1, if entry.2 = old then new else entry.2) := by
    rw [relabel, List.find?_map]
    exact congrArg (Option.map _) first
  rw [label, label, kept, first]
  rfl

/-- An entry tells the label of its node when every node has one entry. -/
theorem label_of_mem (distinct : (labels.map Prod.fst).Nodup) {entry : NodeId × NodeId}
    (listed : entry ∈ labels) : labels.label entry.1 = entry.2 := by
  have found : labels.find? (fun other => other.1 = entry.1) = some entry := by
    induction labels with
    | nil => cases listed
    | cons head rest ih =>
      obtain ⟨new, others⟩ := List.nodup_cons.mp distinct
      cases List.mem_cons.mp listed with
      | inl same =>
        subst same
        exact List.find?_cons_of_pos (by simp)
      | inr later =>
        have apart : head.1 ≠ entry.1 := fun same => new (same ▸ List.mem_map_of_mem later)
        rw [List.find?_cons_of_neg (by simpa using apart)]
        exact ih others later
  rw [label, found]
  rfl

end Labelling

variable {done : List Edge} {labels : Labelling}

/-- Before any edge is merged every node has its own label. -/
theorem labelled_start (wf : g.WellFormed) :
    Labelled g [] (g.nodes.map fun node => (node, node)) := by
  have keys : (g.nodes.map fun node => (node, node)).map Prod.fst = g.nodes := by
    rw [List.map_map]
    exact List.map_id _
  have own : ∀ u ∈ g.nodes,
      Labelling.label (g.nodes.map fun node => (node, node)) u = u := fun u held =>
    Labelling.label_of_mem (keys.symm ▸ wf.nodes_nodup) (List.mem_map_of_mem held)
  refine ⟨keys, fun u held => ?_, fun u held => ?_, fun u held v other => ?_⟩
  · rw [own u held]
    exact held
  · rw [own u held, own u held]
  · rw [own u held, own v other]
    constructor
    · rintro rfl
      exact .here u
    · intro walk
      have same : id u = id v := walk.label_eq fun e listed => absurd listed List.not_mem_nil
      exact same

theorem Labelled.label_merge (held : Labelled g done labels) (member : u ∈ g.nodes) (e : Edge) :
    (labels.merge e).label u =
      if labels.label u = labels.label e.target then labels.label e.source else labels.label u :=
  Labelling.label_relabel (held.keys_eq.symm ▸ member) _ _

/-- Nodes that get one label when an edge is merged are connected once the edge is there: a renamed
node hung together with the target and is now reached from the source. -/
theorem Labelled.merge_sound (held : Labelled g done labels) {e : Edge} (source : e.source ∈ g.nodes)
    (target : e.target ∈ g.nodes) (member : u ∈ g.nodes) (other : v ∈ g.nodes)
    (same : (labels.merge e).label u = (labels.merge e).label v) :
    (g.withOnly (done ++ [e])).Connected u v := by
  have earlier : ∀ {u v}, u ∈ g.nodes → v ∈ g.nodes → labels.label u = labels.label v →
      (g.withOnly (done ++ [e])).Connected u v := fun member other same =>
    ((held.label_eq_iff _ member _ other).mp same).mono fun _ _ => adjacent_withOnly_append e
  have link : (g.withOnly (done ++ [e])).Connected e.source e.target :=
    .of_edge (List.mem_append_right done List.mem_cons_self)
  rw [held.label_merge member, held.label_merge other] at same
  split at same <;> split at same
  · rename_i first second
    exact earlier member other (first.trans second.symm)
  · rename_i first _
    exact (earlier member target first).trans (link.symm.trans (earlier source other same))
  · rename_i _ second
    exact (earlier member source same).trans (link.trans (earlier target other second.symm))
  · exact earlier member other same

/-- Nodes that are connected once an edge is there get one label when it is merged. -/
theorem Labelled.merge_complete (held : Labelled g done labels) {e : Edge}
    (source : e.source ∈ g.nodes) (target : e.target ∈ g.nodes)
    (inside : ∀ d ∈ done, d.source ∈ g.nodes ∧ d.target ∈ g.nodes)
    (walk : (g.withOnly (done ++ [e])).Connected u v) :
    (labels.merge e).label u = (labels.merge e).label v := by
  apply walk.label_eq
  intro d listed
  cases List.mem_append.mp listed with
  | inl before =>
    obtain ⟨near, far⟩ := inside d before
    have same := (held.label_eq_iff _ near _ far).mpr (.of_edge before)
    rw [held.label_merge near, held.label_merge far, same]
  | inr last =>
    rw [List.mem_singleton.mp last, held.label_merge source, held.label_merge target, if_pos rfl]
    split <;> rfl

/-- Merging the ends of one more edge connects what the edge connects, and nothing else. -/
theorem Labelled.merge (held : Labelled g done labels) {e : Edge} (source : e.source ∈ g.nodes)
    (target : e.target ∈ g.nodes) (inside : ∀ d ∈ done, d.source ∈ g.nodes ∧ d.target ∈ g.nodes) :
    Labelled g (done ++ [e]) (labels.merge e) where
  keys_eq := (Labelling.map_fst_relabel _ _ _).trans held.keys_eq
  label_mem u member := by
    rw [held.label_merge member]
    split
    · exact held.label_mem _ source
    · exact held.label_mem u member
  label_label u member := by
    rw [held.label_merge member]
    split
    · rw [held.label_merge (held.label_mem _ source), held.label_label _ source]
      split <;> rfl
    · rename_i apart
      rw [held.label_merge (held.label_mem u member), held.label_label u member, if_neg apart]
  label_eq_iff _ member _ other :=
    ⟨held.merge_sound source target member other, held.merge_complete source target inside⟩

theorem Labelled.foldl (held : Labelled g done labels) (rest : List Edge)
    (inside : ∀ e ∈ done ++ rest, e.source ∈ g.nodes ∧ e.target ∈ g.nodes) :
    Labelled g (done ++ rest) (rest.foldl Labelling.merge labels) := by
  induction rest generalizing done labels with
  | nil =>
    rw [List.append_nil]
    exact held
  | cons e rest ih =>
    obtain ⟨source, target⟩ := inside e (List.mem_append_right done List.mem_cons_self)
    have next := held.merge source target fun d before => inside d (List.mem_append_left _ before)
    rw [← List.singleton_append, ← List.append_assoc] at inside ⊢
    exact ih next inside

/-- Once all edges are merged, two nodes have one label when they hang together. -/
theorem labelled_componentLabels (wf : g.WellFormed) : Labelled g g.edges g.componentLabels :=
  (labelled_start wf).foldl g.edges wf.ends_mem

/-! ## Counting -/

/-- The nodes of a graph, related when they hang together. -/
def hanging (g : Graph) : Setoid { node // node ∈ g.nodes } where
  r u v := g.Connected u v
  iseqv := ⟨fun u => .here u, Connected.symm, Connected.trans⟩

/-- A connected component. -/
def Component (g : Graph) : Type := Quotient g.hanging

instance (g : Graph) : Finite g.Component :=
  inferInstanceAs (Finite (Quotient g.hanging))

/-- The component of a node. -/
def componentOf (g : Graph) (node : { node // node ∈ g.nodes }) : g.Component :=
  Quotient.mk g.hanging node

theorem componentOf_eq_iff {a b : { node // node ∈ g.nodes }} :
    g.componentOf a = g.componentOf b ↔ g.Connected a b := Quotient.eq

theorem exists_componentOf (c : g.Component) : ∃ node, g.componentOf node = c :=
  Quotient.exists_rep c

theorem representatives_nodup (wf : g.WellFormed) : g.representatives.Nodup := by
  have distinct : (g.componentLabels.map Prod.fst).Nodup :=
    (labelled_componentLabels wf).keys_eq.symm ▸ wf.nodes_nodup
  exact distinct.sublist (List.filter_sublist.map Prod.fst)

/-- The representatives are the nodes that carry their own handle. -/
theorem mem_representatives (wf : g.WellFormed) :
    u ∈ g.representatives ↔ u ∈ g.nodes ∧ g.componentLabels.label u = u := by
  have labelled := labelled_componentLabels wf
  have reads : ∀ entry ∈ g.componentLabels, g.componentLabels.label entry.1 = entry.2 :=
    fun entry => Labelling.label_of_mem (labelled.keys_eq.symm ▸ wf.nodes_nodup)
  rw [← labelled.keys_eq, representatives, List.mem_map, List.mem_map]
  constructor
  · rintro ⟨entry, chosen, rfl⟩
    obtain ⟨listed, own⟩ := List.mem_filter.mp chosen
    rw [reads entry listed]
    exact ⟨⟨entry, listed, rfl⟩, (of_decide_eq_true own).symm⟩
  · rintro ⟨⟨entry, listed, rfl⟩, own⟩
    rw [reads entry listed] at own
    exact ⟨entry, List.mem_filter.mpr ⟨listed, decide_eq_true own.symm⟩, rfl⟩

/-- The component that a representative stands for. -/
def represented (wf : g.WellFormed) (r : { node // node ∈ g.representatives }) : g.Component :=
  g.componentOf ⟨r, ((mem_representatives wf).mp r.property).1⟩

/-- Every component has one representative. -/
theorem represented_bijective (wf : g.WellFormed) : (represented wf).Bijective := by
  have labelled := labelled_componentLabels wf
  constructor
  · rintro ⟨r, chosen⟩ ⟨s, also⟩ same
    obtain ⟨held, own⟩ := (mem_representatives wf).mp chosen
    obtain ⟨other, its⟩ := (mem_representatives wf).mp also
    have walk : g.Connected r s := componentOf_eq_iff.mp same
    have labels := (labelled.label_eq_iff r held s other).mpr walk
    exact Subtype.ext (own.symm.trans (labels.trans its))
  · intro c
    obtain ⟨⟨u, held⟩, rfl⟩ := exists_componentOf c
    have found := labelled.label_mem u held
    have own := labelled.label_label u held
    exact ⟨⟨g.componentLabels.label u, (mem_representatives wf).mpr ⟨found, own⟩⟩,
      componentOf_eq_iff.mpr ((labelled.label_eq_iff _ found u held).mp own)⟩

/-- The components are counted by their representatives. -/
theorem componentCount_eq (wf : g.WellFormed) : g.componentCount = Nat.card g.Component := by
  have listed := Nat.card_congr (representatives_nodup wf).getEquiv
  rw [Nat.card_fin] at listed
  exact listed.trans (Nat.card_eq_of_bijective _ (represented_bijective wf))

/-- A graph whose nodes all hang together has one component. -/
theorem componentCount_eq_one (wf : g.WellFormed) (held : u ∈ g.nodes)
    (walks : ∀ v ∈ g.nodes, g.Connected u v) : g.componentCount = 1 := by
  rw [componentCount_eq wf]
  refine Nat.card_eq_one_iff_exists.mpr ⟨g.componentOf ⟨u, held⟩, fun c => ?_⟩
  obtain ⟨⟨v, other⟩, rfl⟩ := exists_componentOf c
  exact componentOf_eq_iff.mpr (walks v other).symm

/-- With two components there are nodes that do not hang together. -/
theorem exists_not_connected (wf : g.WellFormed) (two : 2 ≤ g.componentCount) :
    ∃ u ∈ g.nodes, ∃ v ∈ g.nodes, ¬ g.Connected u v := by
  rw [componentCount_eq wf] at two
  obtain ⟨c, d, apart⟩ := (Finite.one_lt_card_iff_nontrivial.mp two).exists_pair_ne
  obtain ⟨⟨u, held⟩, rfl⟩ := exists_componentOf c
  obtain ⟨⟨v, other⟩, rfl⟩ := exists_componentOf d
  exact ⟨u, held, v, other, fun walk => apart (componentOf_eq_iff.mpr walk)⟩

/-! ## Parts -/

/-- A graph stands in another as a part that no edge leaves, its nodes where `place` sends them. -/
structure Part (place : NodeId → NodeId) (part whole : Graph) : Prop where
  mem : ∀ a ∈ part.nodes, place a ∈ whole.nodes
  distinct : ∀ a ∈ part.nodes, ∀ b ∈ part.nodes, place a = place b → a = b
  adjacent_iff : ∀ a ∈ part.nodes, ∀ v, whole.adjacent (place a) v = true ↔
    ∃ b ∈ part.nodes, place b = v ∧ part.adjacent a b = true

variable {place : NodeId → NodeId} {part whole : Graph} {a b : NodeId}

/-- Walks do not leave a part. -/
theorem Part.stays (stands : Part place part whole) {u v : NodeId} (walk : whole.Connected u v)
    (held : a ∈ part.nodes) (start : place a = u) :
    ∃ b ∈ part.nodes, place b = v ∧ part.Connected a b := by
  induction walk generalizing a with
  | here => exact ⟨a, held, start, .here a⟩
  | step joined _ ih =>
    subst start
    obtain ⟨b, other, reached, beside⟩ := (stands.adjacent_iff a held _).mp joined
    obtain ⟨c, last, ended, onward⟩ := ih other reached
    exact ⟨c, last, ended, .step beside onward⟩

/-- Nodes of a part hang together in the whole when they do in the part. -/
theorem Part.connected_iff (stands : Part place part whole) (wf : part.WellFormed)
    (held : a ∈ part.nodes) (other : b ∈ part.nodes) :
    whole.Connected (place a) (place b) ↔ part.Connected a b := by
  constructor
  · intro walk
    obtain ⟨c, last, same, onward⟩ := stands.stays walk held rfl
    exact stands.distinct c last b other same ▸ onward
  · intro walk
    refine walk.image fun a b joined => ?_
    obtain ⟨held, other⟩ := mem_of_adjacent wf joined
    exact (stands.adjacent_iff a held _).mpr ⟨b, other, rfl, joined⟩

/-- The component of the whole in which a component of a part stands. -/
def Part.component (stands : Part place part whole) (wf : part.WellFormed) :
    part.Component → whole.Component :=
  Quotient.map (fun a => ⟨place a, stands.mem a a.property⟩) fun a b walk =>
    (stands.connected_iff wf a.property b.property).mpr walk

theorem Part.component_componentOf (stands : Part place part whole) (wf : part.WellFormed)
    (a : { node // node ∈ part.nodes }) :
    stands.component wf (part.componentOf a) =
      whole.componentOf ⟨place a, stands.mem a a.property⟩ := rfl

theorem Part.component_injective (stands : Part place part whole) (wf : part.WellFormed) :
    (stands.component wf).Injective := by
  intro c d same
  obtain ⟨a, rfl⟩ := exists_componentOf c
  obtain ⟨b, rfl⟩ := exists_componentOf d
  rw [stands.component_componentOf, stands.component_componentOf, componentOf_eq_iff] at same
  exact componentOf_eq_iff.mpr ((stands.connected_iff wf a.property b.property).mp same)

/-- Graphs with the same nodes and the same adjacent pairs have as many components. -/
theorem componentCount_congr (wf : g.WellFormed) (other : h.WellFormed)
    (nodes_eq : h.nodes = g.nodes) (beside : ∀ u v, h.adjacent u v = g.adjacent u v) :
    h.componentCount = g.componentCount := by
  have stands : Part id g h :=
    ⟨fun a held => nodes_eq ▸ held, fun _ _ _ _ same => same, fun a held v => by
      rw [id, beside]
      exact ⟨fun joined => ⟨v, (mem_of_adjacent wf joined).2, rfl, joined⟩,
        fun ⟨_, _, same, joined⟩ => same ▸ joined⟩⟩
  have bijective : (stands.component wf).Bijective := by
    refine ⟨stands.component_injective wf, fun c => ?_⟩
    obtain ⟨⟨v, held⟩, rfl⟩ := exists_componentOf c
    exact ⟨g.componentOf ⟨v, nodes_eq ▸ held⟩, rfl⟩
  rw [componentCount_eq wf, componentCount_eq other, Nat.card_eq_of_bijective _ bijective]

/-- A graph that is made up of two parts has the components of both. -/
theorem componentCount_eq_add {p q : NodeId → NodeId} {first second : Graph}
    (wf : whole.WellFormed) (one : Part p first whole) (two : Part q second whole)
    (left : first.WellFormed) (right : second.WellFormed)
    (cover : ∀ u ∈ whole.nodes, (∃ a ∈ first.nodes, p a = u) ∨ ∃ b ∈ second.nodes, q b = u)
    (apart : ∀ a ∈ first.nodes, ∀ b ∈ second.nodes, p a ≠ q b) :
    whole.componentCount = first.componentCount + second.componentCount := by
  have bijective : (Sum.elim (one.component left) (two.component right)).Bijective := by
    constructor
    · refine (one.component_injective left).sumElim (two.component_injective right) fun c d => ?_
      obtain ⟨a, rfl⟩ := exists_componentOf c
      obtain ⟨b, rfl⟩ := exists_componentOf d
      rw [one.component_componentOf, two.component_componentOf, Ne, componentOf_eq_iff]
      intro walk
      obtain ⟨c, held, same, _⟩ := one.stays walk a.property rfl
      exact apart c held b b.property same
    · intro c
      obtain ⟨⟨u, held⟩, rfl⟩ := exists_componentOf c
      rcases cover u held with ⟨a, inside, rfl⟩ | ⟨b, inside, rfl⟩
      · exact ⟨.inl (first.componentOf ⟨a, inside⟩), rfl⟩
      · exact ⟨.inr (second.componentOf ⟨b, inside⟩), rfl⟩
  rw [componentCount_eq wf, componentCount_eq left, componentCount_eq right, ← Nat.card_sum,
    Nat.card_eq_of_bijective _ bijective]

end Multigraph.Graph
