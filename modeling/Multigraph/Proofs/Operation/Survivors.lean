import Mathlib.Data.List.Find
import Multigraph.Proofs.Operation.Merging
import Multigraph.Proofs.Operation.Simple

/-!
Which edges survive a join. As parallel edges are removed without regard to direction, the first
edge of every pair survives, and the edges are those of the first graph, then those of the second,
then those between the graphs. The edges of the second graph are drawn again whenever an end is
absorbed, but all edges of one pair together and in their order (`Traced.absorbed`), so the first
of them is still the first in the end (`traced_placeCopies`). What survives is put together for a
pair that the first graph joins, for one that only the second does, and for any other
(`survivors_of_placed`).
-/
namespace Multigraph

open Multigraph.Action

namespace Edge

theorem touches_eq (e : Edge) (node : NodeId) : e.touches node = decide (node ∈ e.pair) := by
  rw [Bool.eq_iff_iff, touches, pair, Bool.or_eq_true, decide_eq_true_eq, decide_eq_true_eq,
    decide_eq_true_eq, Sym2.mem_iff, eq_comm, @eq_comm _ node e.target]

end Edge

namespace Graph

/-! ## Edges drawn again -/

/-- Some edges have been drawn from others between new places, perhaps not in the order of the
others, but those of each pair in their order. -/
def Traced (place : NodeId → NodeId) (edges drawn : List Edge) : Prop :=
  ∃ origins : List Edge, drawn.map Edge.ends = origins.map (Edge.endsUnder place) ∧
    ∀ pair, origins.filter (fun e => e.pair = pair) = edges.filter fun e => e.pair = pair

variable {edges drawn later origins : List Edge} {place place' : NodeId → NodeId}

theorem mem_of_filter_pair
    (kept : ∀ pair, origins.filter (fun e => e.pair = pair) = edges.filter fun e => e.pair = pair)
    {e : Edge} (member : e ∈ origins) : e ∈ edges := by
  have own : e ∈ origins.filter fun d => d.pair = e.pair :=
    List.mem_filter.mpr ⟨member, decide_eq_true rfl⟩
  rw [kept] at own
  exact (List.mem_filter.mp own).1

/-- Edges that are drawn at some places are drawn in the same way at places that are the same at
their ends. -/
theorem Traced.congr (traced : Traced place edges drawn)
    (same : ∀ e ∈ edges, e.endsUnder place = e.endsUnder place') : Traced place' edges drawn := by
  obtain ⟨origins, ends, kept⟩ := traced
  refine ⟨origins, ends.trans (List.map_congr_left fun e member => ?_), kept⟩
  exact same e (mem_of_filter_pair kept member)

/-- Some of the edges that have been drawn, told by their ends, come from the edges that these ends
come from. -/
theorem map_ends_filter (ends : drawn.map Edge.ends = origins.map (Edge.endsUnder place))
    (p : NodeId × NodeId → Bool) :
    (drawn.filter fun e => p e.ends).map Edge.ends =
      (origins.filter fun e => p (e.endsUnder place)).map (Edge.endsUnder place) := by
  have mapped := congrArg (List.filter p) ends
  rw [List.filter_map, List.filter_map] at mapped
  exact mapped

/-- A list that is parted in two by the pairs of its edges has the edges of each pair in their
order. -/
theorem filter_parted (chosen : Sym2 NodeId → Bool) (origins : List Edge) (pair : Sym2 NodeId) :
    ((origins.filter fun e => !chosen e.pair) ++ origins.filter fun e => chosen e.pair).filter
      (fun e => e.pair = pair) = origins.filter fun e => e.pair = pair := by
  have fixed : ∀ p : Sym2 NodeId → Bool, (fun e : Edge => decide (e.pair = pair) && p e.pair) =
      fun e => decide (e.pair = pair) && p pair := by
    intro p
    funext e
    by_cases own : e.pair = pair
    · rw [own]
    · rw [decide_eq_false own, Bool.false_and, Bool.false_and]
  rw [List.filter_append, List.filter_filter, List.filter_filter, fixed chosen,
    fixed fun pair => !chosen pair]
  cases chosen pair with
  | true => simp
  | false => simp

/-- When a node is absorbed, all edges of a pair are drawn again or none is, so the edges of each
pair stay in their order. -/
theorem Traced.absorbed {copy target : NodeId} (traced : Traced place edges drawn)
    (ends : later.map Edge.ends =
      ((drawn.filter fun e => !e.touches copy) ++ drawn.filter fun e => e.touches copy).map
        (Edge.endsUnder (redirect copy target)))
    (moved : ∀ e ∈ edges, e.endsUnder place' =
      Prod.map (redirect copy target) (redirect copy target) (e.endsUnder place)) :
    Traced place' edges later := by
  obtain ⟨origins, drawnFrom, kept⟩ := traced
  simp only [Edge.touches_eq] at ends
  have redrawn : ∀ p : NodeId × NodeId → Bool,
      (drawn.filter fun e => p e.ends).map (Edge.endsUnder (redirect copy target)) =
        (origins.filter fun e => p (e.endsUnder place)).map (Edge.endsUnder place') := by
    intro p
    have mapped := congrArg (List.map (Prod.map (redirect copy target) (redirect copy target)))
      (map_ends_filter drawnFrom p)
    rw [List.map_map, List.map_map] at mapped
    refine mapped.trans (List.map_congr_left fun e member => ?_)
    exact (moved e (mem_of_filter_pair kept (List.mem_filter.mp member).1)).symm
  refine ⟨_, ?_, fun pair =>
    (filter_parted (fun pair => decide (copy ∈ pair.map place)) origins pair).trans (kept pair)⟩
  rw [ends, List.map_append, List.map_append]
  exact congrArg₂ (· ++ ·) (redrawn fun x => !decide (copy ∈ s(x.1, x.2)))
    (redrawn fun x => decide (copy ∈ s(x.1, x.2)))

variable {first second : Graph} {values : Assignment} {done rest : List NodeId}
  {images : Table NodeId NodeId} {n : NodeId}

/-- The edges of the second graph are traced in the midst of a join, when some of its nodes have
been settled. -/
def TracedAfter (first second : Graph) (values : Assignment) (done : List NodeId) (g : Graph) :
    Prop :=
  ∃ drawn, g.edges = first.edges ++ drawn ∧
    Traced (placeAfter values first.nextNode second.nodes done) second.edges drawn

theorem tracedAfter_start (first second : Graph) (values : Assignment) :
    TracedAfter first second values [] ((first.withNodes second.nodes.length).withEdges
      (second.edges.map (Edge.endsUnder (handleOf first.nextNode second.nodes)))) := by
  refine ⟨_, rfl, second.edges, ?_, fun _ => rfl⟩
  rw [Edge.map_ends_numbered]
  refine List.map_congr_left fun e _ => ?_
  simp [Edge.endsUnder, placeAfter]

/-- Settling the next node leaves the edges traced. -/
theorem tracedAfter_settling {g : Graph} (wf : first.WellFormed) (other : second.WellFormed)
    (valid : values.PointsInto second first) (member : n ∈ second.nodes) (ahead : n ∉ done)
    (traced : TracedAfter first second values done g) :
    TracedAfter first second values (done ++ [n]) (settling first second values n g) := by
  obtain ⟨drawn, split, traced⟩ := traced
  rw [settling]
  cases set : values.target? n with
  | none =>
    refine ⟨drawn, split, traced.congr fun e _ => ?_⟩
    rw [Edge.endsUnder, Edge.endsUnder, placeAfter_unset set, placeAfter_unset set]
  | some t =>
    have apart := ne_copy wf (valid.target_mem member set) second.nodes n
    obtain ⟨later, onward, ends⟩ := absorbed_edges split (away_from_copy wf second.nodes n) apart
    exact ⟨later, onward, traced.absorbed ends fun e listed =>
      placeAfter_ends wf other valid set member ahead listed⟩

/-- In the end the edges of the second graph are behind those of the first, drawn from place to
place and those of each pair in their order. -/
theorem traced_placeCopies (wf : first.WellFormed) (other : second.WellFormed)
    (valid : values.PointsInto second first) :
    ∃ images g drawn,
      placeCopies (.other second) ⟨values.identifications second.nodes⟩ first first =
        .ok images g ∧
      Settled first second values second.nodes images g ∧ g.edges = first.edges ++ drawn ∧
      Traced (values.placeFrom first.nextNode second.nodes) second.edges drawn := by
  obtain ⟨images, g, ran, settled, drawn, split, traced⟩ := foldlM_invariant
    (fun done images g =>
      Settled first second values done images g ∧ TracedAfter first second values done g)
    ⟨settled_start wf other values, tracedAfter_start first second values⟩
    fun done n rest images g cut held => by
      obtain ⟨next, ran, settled⟩ := settle_step wf other valid cut held.1
      obtain ⟨member, ahead⟩ := next_ahead other.nodes_nodup cut
      exact ⟨next, _, ran, settled, tracedAfter_settling wf other valid member ahead held.2⟩
  refine ⟨images, g, drawn, placeCopies_run other ran, settled, split,
    traced.congr fun e listed => ?_⟩
  obtain ⟨source, reached⟩ := other.ends_mem e listed
  exact Prod.ext (placeAfter_all source) (placeAfter_all reached)

/-! ## The first edge of a pair -/

theorem map_ends_find? (ends : drawn.map Edge.ends = origins.map (Edge.endsUnder place))
    (p : NodeId × NodeId → Bool) :
    (drawn.find? fun e => p e.ends).map Edge.ends =
      (origins.find? fun e => p (e.endsUnder place)).map (Edge.endsUnder place) := by
  rw [← Edge.find?_map_ends, ends, List.find?_map]
  rfl

theorem mem_iff_of_filter_pair
    (kept : ∀ pair, origins.filter (fun e => e.pair = pair) = edges.filter fun e => e.pair = pair)
    {e : Edge} : e ∈ origins ↔ e ∈ edges :=
  ⟨mem_of_filter_pair kept, mem_of_filter_pair fun pair => (kept pair).symm⟩

/-- The drawn edges join the pairs that the others are taken to. -/
theorem Traced.exists_pair_iff (traced : Traced place edges drawn) (pair : Sym2 NodeId) :
    (∃ e ∈ drawn, e.pair = pair) ↔ ∃ d ∈ edges, d.pair.map place = pair := by
  obtain ⟨origins, ends, kept⟩ := traced
  rw [Edge.exists_pair_iff (List.Perm.of_eq ends)]
  constructor
  · rintro ⟨x, listed, same⟩
    obtain ⟨d, origin, rfl⟩ := List.mem_map.mp listed
    exact ⟨d, mem_of_filter_pair kept origin, same⟩
  · rintro ⟨d, member, same⟩
    exact ⟨_, List.mem_map_of_mem ((mem_iff_of_filter_pair kept).mpr member), same⟩

/-- The first edge that has been drawn for a pair comes from an edge of a pair that is taken there.
If no other pair is taken there, it comes from the first edge of that pair. -/
theorem Traced.find?_pair (traced : Traced place edges drawn) {e : Edge} {pair : Sym2 NodeId}
    (found : drawn.find? (fun d => d.pair = pair) = some e) :
    ∃ d ∈ edges, e.ends = d.endsUnder place ∧
      ((∀ other ∈ edges, other.pair.map place = pair → other.pair = d.pair) →
        edges.find? (fun other => other.pair = d.pair) = some d) := by
  obtain ⟨origins, ends, kept⟩ := traced
  have mapped : (drawn.find? fun d => d.pair = pair).map Edge.ends =
      (origins.find? fun d => d.pair.map place = pair).map (Edge.endsUnder place) :=
    map_ends_find? ends fun x => s(x.1, x.2) = pair
  rw [found, Option.map_some] at mapped
  obtain ⟨d, origin, same⟩ := Option.map_eq_some_iff.mp mapped.symm
  refine ⟨d, mem_of_filter_pair kept (List.mem_of_find?_eq_some origin), same.symm, fun only => ?_⟩
  have taken : d.pair.map place = pair := by simpa using List.find?_some origin
  rw [← List.head?_filter, ← kept, List.head?_filter, ← origin]
  refine List.find?_congr fun other listed => decide_eq_decide.mpr ⟨fun same => ?_, fun same => ?_⟩
  · exact (congrArg (Sym2.map place) same).trans taken
  · exact only other (mem_of_filter_pair kept listed) same

/-- The first pair between the graphs comes from the earliest node of the second graph that makes
it. -/
theorem find?_crossPairs {old nodes : List NodeId} (increasing : nodes.Pairwise (· < ·))
    {pair : Sym2 NodeId} {x : NodeId × NodeId}
    (found : (crossPairs old nodes place).find? (fun x => s(x.1, x.2) = pair) = some x) :
    ∃ n ∈ old, ∃ node ∈ nodes, n ≠ place node ∧ x = (n, place node) ∧
      ∀ other ∈ nodes, ∀ m ∈ old, m ≠ place other → s(m, place other) = pair → node ≤ other := by
  rw [crossPairs, List.find?_flatMap] at found
  obtain ⟨before, node, behind, rfl, drawn, earlier⟩ := List.findSome?_eq_some_iff.mp found
  obtain ⟨n, chosen, rfl⟩ := List.mem_map.mp (List.mem_of_find?_eq_some drawn)
  obtain ⟨held, apart⟩ := List.mem_filter.mp chosen
  refine ⟨n, held, node, List.mem_append_cons_self, of_decide_eq_true apart, rfl, ?_⟩
  intro other listed m inside away same
  rcases List.mem_append.mp listed with ahead | later
  · have absent := List.find?_eq_none.mp (earlier other ahead) (m, place other)
      (List.mem_map_of_mem (List.mem_filter.mpr ⟨inside, decide_eq_true away⟩))
    exact absurd (decide_eq_true same) absent
  · rcases List.mem_cons.mp later with rfl | later
    · exact Int.le_refl _
    · have order := (List.pairwise_append.mp increasing).2.1
      exact Int.le_of_lt ((List.pairwise_cons.mp order).1 other later)

/-! ## What survives -/

/-- Which edges a join leaves when `place` tells where the nodes of the second graph are and the
edges between the graphs have the handles from `crossing` on. -/
structure Survivors (first second : Graph) (values : Assignment) (place : NodeId → NodeId)
    (crossing : EdgeId) (after : Graph) : Prop where
  /-- An old edge is left as it was if it is the earliest of its pair, and otherwise it is gone. -/
  old : ∀ e ∈ first.edges, after.edge? e.id =
    if ∀ d ∈ first.edges, d.pair = e.pair → e.id ≤ d.id then some e else none
  /-- A pair that only the second graph joins is joined in the direction of one of the edges that it
  comes from, and of the earliest if no two nodes are identified with one. -/
  copied : ∀ e ∈ after.edges, (∀ d ∈ first.edges, d.pair ≠ e.pair) →
    (∃ d ∈ second.edges, d.pair.map place = e.pair) →
      e.id < crossing ∧ ∃ d ∈ second.edges, e.ends = d.endsUnder place ∧
        (values.Separates second.nodes →
          ∀ other ∈ second.edges, other.pair.map place = e.pair → d.id ≤ other.id)
  /-- Any other pair is joined from an old node to the earliest node of the second graph that is at
  an end of it with an old node at the other. -/
  crossed : ∀ e ∈ after.edges, (∀ d ∈ first.edges, d.pair ≠ e.pair) →
    (∀ d ∈ second.edges, d.pair.map place ≠ e.pair) →
      crossing ≤ e.id ∧ ∃ n ∈ first.nodes, ∃ node ∈ second.nodes,
        n ≠ place node ∧ e.ends = (n, place node) ∧
        ∀ other ∈ second.nodes, (∃ m ∈ first.nodes, s(m, place other) = e.pair) → node ≤ other

/-- An old edge is the first of its pair if it is the earliest old edge of it. -/
theorem mem_firsts_old (wf : first.WellFormed) (others : List Edge) {e : Edge}
    (old : e ∈ first.edges) :
    e ∈ firsts false [] (first.edges ++ others) ↔
      ∀ d ∈ first.edges, d.pair = e.pair → e.id ≤ d.id := by
  rw [mem_firsts_pair_iff, List.find?_append, Option.or_of_isSome,
    find?_eq_some_iff_least wf.edges_increasing]
  · simp [old]
  · exact List.find?_isSome.mpr ⟨e, old, decide_eq_true rfl⟩

/-- The first edge of a pair that has no old edge is the first of the other edges. -/
theorem mem_firsts_new {others : List Edge} {e : Edge}
    (new : ∀ d ∈ first.edges, d.pair ≠ e.pair) :
    e ∈ firsts false [] (first.edges ++ others) ↔
      others.find? (fun d => d.pair = e.pair) = some e := by
  have absent : first.edges.find? (fun d => d.pair = e.pair) = none :=
    List.find?_eq_none.mpr fun d old same => new d old (of_decide_eq_true same)
  rw [mem_firsts_pair_iff, List.find?_append, absent, Option.none_or]

/-- Where different nodes are at different places, different pairs are taken to different pairs. -/
theorem pair_map_inj (other : second.WellFormed)
    (inj : ∀ a ∈ second.nodes, ∀ b ∈ second.nodes, place a = place b → a = b) {d e : Edge}
    (held : d ∈ second.edges) (listed : e ∈ second.edges)
    (same : d.pair.map place = e.pair.map place) : d.pair = e.pair := by
  obtain ⟨source, target⟩ := other.ends_mem d held
  obtain ⟨source', target'⟩ := other.ends_mem e listed
  rcases Sym2.eq_iff.mp same with ⟨here, there⟩ | ⟨here, there⟩
  · exact Sym2.eq_iff.mpr (.inl ⟨inj _ source _ source' here, inj _ target _ target' there⟩)
  · exact Sym2.eq_iff.mpr (.inr ⟨inj _ source _ target' here, inj _ target _ source' there⟩)

/-- A graph that has some of the edges of another finds those by their handles. -/
theorem edge?_of_sublist {g h : Graph} (distinct : (g.edges.map Edge.id).Nodup)
    (kept : h.edges.Sublist g.edges) {e : Edge} (member : e ∈ g.edges) :
    h.edge? e.id = if e ∈ h.edges then some e else none := by
  split
  · rename_i left
    exact edge?_of_mem (distinct.sublist (kept.map Edge.id)) left
  · rename_i gone
    refine List.find?_eq_none.mpr fun f left same => gone ?_
    exact Edge.eq_of_id_eq distinct (kept.subset left) member (of_decide_eq_true same) ▸ left

/-- The first of the drawn edges of a pair that the second graph joins is one of its own, and if
different nodes are at different places it is the earliest. -/
theorem copied_of_traced (wf : first.WellFormed) (other : second.WellFormed)
    (valid : values.PointsInto second first)
    (traced : Traced (values.placeFrom first.nextNode second.nodes) second.edges drawn) {e : Edge}
    (found : drawn.find? (fun d => d.pair = e.pair) = some e) :
    ∃ d ∈ second.edges, e.ends = d.endsUnder (values.placeFrom first.nextNode second.nodes) ∧
      (values.Separates second.nodes → ∀ f ∈ second.edges,
        f.pair.map (values.placeFrom first.nextNode second.nodes) = e.pair → d.id ≤ f.id) := by
  obtain ⟨d, member, ends, earliest⟩ := traced.find?_pair found
  refine ⟨d, member, ends, fun separates f listed taken => ?_⟩
  have own : d.pair.map (values.placeFrom first.nextNode second.nodes) = e.pair :=
    (congrArg (fun x : NodeId × NodeId => s(x.1, x.2)) ends).symm
  have only : ∀ f ∈ second.edges,
      f.pair.map (values.placeFrom first.nextNode second.nodes) = e.pair → f.pair = d.pair := by
    intro f listed taken
    refine pair_map_inj other (fun a held b held' => ?_) listed member (taken.trans own.symm)
    exact Assignment.placeFrom_inj wf valid separates (fun _ inside _ => inside) held held'
  have least := (find?_eq_some_iff_least other.edges_increasing).mp (earliest only)
  exact least.2.2 f listed (decide_eq_true (only f listed taken))

/-- The first of the edges between the graphs that make a pair runs to the earliest node of the
second graph with which one does. -/
theorem crossed_of_numbered (other : second.WellFormed) {counter : EdgeId} {e : Edge}
    {old : List NodeId}
    (found : (Edge.numbered counter (crossPairs old second.nodes place)).find?
      (fun d => d.pair = e.pair) = some e) :
    ∃ n ∈ old, ∃ node ∈ second.nodes, n ≠ place node ∧ e.ends = (n, place node) ∧
      ∀ other ∈ second.nodes, (∃ m ∈ old, s(m, place other) = e.pair) → node ≤ other := by
  have there : (crossPairs old second.nodes place).find? (fun x => s(x.1, x.2) = e.pair) =
      some e.ends := by
    rw [← Edge.map_ends_numbered counter (crossPairs _ _ _), Edge.find?_map_ends]
    exact congrArg (Option.map Edge.ends) found
  obtain ⟨n, held, node, inside, apart, ends, least⟩ :=
    find?_crossPairs other.nodes_increasing there
  have own : e.pair = s(n, place node) :=
    congrArg (fun x : NodeId × NodeId => s(x.1, x.2)) ends
  refine ⟨n, held, node, inside, apart, ends, fun node' listed ⟨m, held', same⟩ => ?_⟩
  refine least node' listed m held' (fun equal => apart ?_) same
  -- The pair has different ends, so no edge that makes it is a loop.
  rw [own, equal] at same
  obtain ⟨source, target⟩ := (Sym2.eq_iff.mp same).elim id And.symm
  exact source.symm.trans target

/-- What survives, from the placed second graph on. -/
theorem survivors_of_placed {g : Graph} (wf : first.WellFormed) (other : second.WellFormed)
    (valid : values.PointsInto second first)
    (held : Settled first second values second.nodes images g)
    (split : g.edges = first.edges ++ drawn)
    (traced : Traced (values.placeFrom first.nextNode second.nodes) second.edges drawn) :
    Survivors first second values (values.placeFrom first.nextNode second.nodes) g.nextEdge
      (joinedFrom first second values g) := by
  have distinct := (crossed_wellFormed valid held).ids_nodup
  have all : (crossed first second values g).edges = first.edges ++ (drawn ++
      Edge.numbered g.nextEdge (crossPairs first.nodes second.nodes
        (values.placeFrom first.nextNode second.nodes))) := by
    rw [crossed, edges_withEdges, split, List.append_assoc]
  have left : (joinedFrom first second values g).edges = firsts false [] _ :=
    congrArg (firsts false []) all
  have joined := traced.exists_pair_iff
  refine ⟨fun e old => ?_, fun e kept new taken => ?_, fun e kept new bare => ?_⟩
  · have listed : e ∈ (crossed first second values g).edges := by
      rw [all]
      exact List.mem_append_left _ old
    rw [edge?_of_sublist distinct (firsts_sublist false [] _) listed]
    refine if_congr ?_ rfl rfl
    rw [left]
    exact mem_firsts_old wf _ old
  · obtain ⟨d, member, same⟩ := (joined e.pair).mpr taken
    rw [left, mem_firsts_new new, List.find?_append, Option.or_of_isSome
      (List.find?_isSome.mpr ⟨d, member, decide_eq_true same⟩)] at kept
    have inside : e ∈ g.edges := by
      rw [split]
      exact List.mem_append_right _ (List.mem_of_find?_eq_some kept)
    exact ⟨(held.wellFormed.edges_below e inside).2, copied_of_traced wf other valid traced kept⟩
  · have absent : drawn.find? (fun d => d.pair = e.pair) = none := by
      refine List.find?_eq_none.mpr fun d member same => ?_
      obtain ⟨f, listed, taken⟩ := (joined e.pair).mp ⟨d, member, of_decide_eq_true same⟩
      exact bare f listed taken
    rw [left, mem_firsts_new new, List.find?_append, absent, Option.none_or] at kept
    exact ⟨Edge.le_id_of_mem_numbered (List.mem_of_find?_eq_some kept),
      crossed_of_numbered other kept⟩

end Graph

namespace Workspace

/-- In every workspace that commands lead to, a join of two graphs that succeeds passes through a
graph in which the second has been placed and no edge between the two has been drawn. In the end
every joined pair is joined once: by the earliest edge of the first graph if it has one, in a
direction that the pair has in the second graph if only that joins it, and otherwise by an edge that
was drawn after that. -/
theorem join_survivors {w after : Workspace} (reached : w.Reachable) {first second : GraphId}
    {m : MapId} (apart : first ≠ second) (held : first < w.graphs.length) {reply : Reply}
    (ran : run (.join first second m) w = .ok reply after) :
    ∃ place images middle removed,
      (∀ node ∈ (w.graph second).nodes,
        after.readKey m node = .ok (some (.int (place node)))) ∧
      Graph.placeCopies (.other (w.graph second))
        ⟨(w.map m).values.identifications (w.graph second).nodes⟩ (w.graph first)
        (w.graph first) = .ok images middle ∧
      Graph.crossOver (.other (w.graph second)) (w.graph first).nodes images middle =
        .ok removed (after.graph first) ∧
      Graph.Joins (w.graph first) (w.graph second) (w.map m).values place (after.graph first) ∧
      Graph.Survivors (w.graph first) (w.graph second) (w.map m).values place middle.nextEdge
        (after.graph first) := by
  have fits : ¬ w.Misfits m second first := by
    intro misfit
    obtain ⟨_, refused, _⟩ := join_misfit misfit
    rw [refused] at ran
    cases ran
  obtain ⟨bound, valid⟩ := not_misfits_iff.mp fits
  have wf := reached.wellFormed first
  have other := reached.wellFormed second
  obtain ⟨images, middle, drawn, placed, settled, split, traced⟩ :=
    Graph.traced_placeCopies wf other valid
  have completed := join_command apart bound (Graph.join_of_placed other valid placed settled)
  rw [ran] at completed
  obtain ⟨-, rfl⟩ := EStateM.Result.ok.inj completed
  have merged : w.Merged first second
      (Graph.joinedFrom (w.graph first) (w.graph second) (w.map m).values middle) m
      ((w.map m).values.placeFrom (w.graph first).nextNode (w.graph second).nodes) _ :=
    merged_recorded apart held bound _ (settled.keys_eq ▸ other.nodes_nodup) fun node inside =>
      (settled.images_eq node inside).trans (congrArg some (Graph.placeAfter_all inside))
  have crossing := Graph.crossOver_run valid settled
  have joins := Graph.joins_of_settled other valid settled
  have survivors := Graph.survivors_of_placed wf other valid settled split traced
  rw [← merged.graph_eq] at crossing joins survivors
  exact ⟨_, images, middle, _, merged.reads, placed, crossing, joins, survivors⟩

/-- Parallel edges on both sides, and a correspondence that identifies an end of those in the second
graph. -/
def braided : List Command :=
  [.newGraph, .newNode 0, .newNode 0, .newNode 0, .newEdge 0 0 1, .newEdge 0 1 0, .newGraph,
    .newNode 1, .newNode 1, .newNode 1, .newEdge 1 1 0, .newEdge 1 0 1, .newEdge 1 2 2,
    .newMap (some 1), .write 0 0 (some (.int 2))]

theorem join_survivors_braided :
    Reachable (runAll {} braided) ∧ 0 ≠ 1 ∧ 0 < (runAll {} braided).graphs.length ∧
    ∃ reply after, run (.join 0 1 0) (runAll {} braided) = .ok reply after ∧
    ∃ place images middle removed,
      (∀ node ∈ ((runAll {} braided).graph 1).nodes,
        after.readKey 0 node = .ok (some (.int (place node)))) ∧
      Graph.placeCopies (.other ((runAll {} braided).graph 1))
        ⟨((runAll {} braided).map 0).values.identifications ((runAll {} braided).graph 1).nodes⟩
        ((runAll {} braided).graph 0) ((runAll {} braided).graph 0) = .ok images middle ∧
      Graph.crossOver (.other ((runAll {} braided).graph 1)) ((runAll {} braided).graph 0).nodes
        images middle = .ok removed (after.graph 0) ∧
      Graph.Joins ((runAll {} braided).graph 0) ((runAll {} braided).graph 1)
        ((runAll {} braided).map 0).values place (after.graph 0) ∧
      Graph.Survivors ((runAll {} braided).graph 0) ((runAll {} braided).graph 1)
        ((runAll {} braided).map 0).values place middle.nextEdge (after.graph 0) ∧
      (after.graph 0).nodes = [0, 1, 2, 4, 5] ∧
      (after.graph 0).edges =
        [⟨0, 0, 1⟩, ⟨4, 5, 5⟩, ⟨5, 4, 2⟩, ⟨7, 0, 2⟩, ⟨8, 1, 2⟩, ⟨9, 0, 4⟩, ⟨10, 1, 4⟩,
          ⟨12, 0, 5⟩, ⟨13, 1, 5⟩, ⟨14, 2, 5⟩] := by
  have reached : Reachable (runAll {} braided) :=
    reachable_runAll .empty (by simp [braided, Command.Proper])
  have apart : 0 ≠ 1 := by decide
  have held : 0 < (runAll {} braided).graphs.length := by decide
  have fits : ¬ (runAll {} braided).Misfits 0 1 0 :=
    not_misfits_iff.mpr ⟨by decide, by decide⟩
  obtain ⟨reply, after, ran⟩ := join_fits reached apart fits
  obtain ⟨place, images, middle, removed, reads, placed, crossing, joins, survivors⟩ :=
    join_survivors reached apart held ran
  obtain rfl : (runAll {} braided).step (.join 0 1 0) = after := after_of_ok ran
  exact ⟨reached, apart, held, reply, _, ran, place, images, middle, removed, reads, placed,
    crossing, joins, survivors, by decide +kernel, by decide +kernel⟩

end Workspace

end Multigraph
