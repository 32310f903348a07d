import Multigraph.Proofs.Product.Modular
import Multigraph.Proofs.Product.Pairs
import Multigraph.Proofs.Product.Room

/-!
Products and complements. Of simple graphs, the complement of a co-normal product is the strong
product of the complements, the complement of a lexicographical product is the lexicographical
product of the complements (`links_complemented`), and a modular product is that of the complements
(`links_modular_complemented`). All are counted between pairs that differ, in either direction.
-/
namespace Multigraph

open Multigraph.Graph Build

namespace Graph

variable {g : Graph} {u v : NodeId}

/-- In the complement of a simple graph different nodes are joined, once, if they were not. -/
theorem joined_complemented_of_isSimple (wf : g.WellFormed) (simple : g.isSimple = true)
    (held : u ∈ g.nodes) (other : v ∈ g.nodes) :
    (complemented {} g).multiplicity u v + (complemented {} g).multiplicity v u =
      if u ≠ v ∧ g.adjacent u v = false then 1 else 0 := by
  by_cases same : u = v
  · subst same
    have loopless := isSimple_iff.mp simple u u
    rw [multiplicity_complemented_self wf, if_neg fun apart => apart.1 rfl]
    omega
  · rw [joined_complemented wf same held other]
    cases g.adjacent u v <;> simp [same]

end Graph

namespace Product

variable {first second : Graph} {pair target : NodeId × NodeId}

/-- Two products of the same graphs have as many edges between any two different pairs, counted in
both directions. -/
def SameLinks (first second : Graph) (i j : Grid) (g h : Graph) : Prop :=
  ∀ pair ∈ pairsOf first.nodes second.nodes, ∀ target ∈ pairsOf first.nodes second.nodes,
    pair ≠ target → ∃ n, i.links? g pair target = some n ∧ j.links? h pair target = some n

/-- Between different pairs the product of complements has an edge where the product has none. -/
theorem links_complemented {product dual : Product} (wf : first.WellFormed)
    (other : second.WellFormed) (simple : first.isSimple = true) (simple' : second.isSimple = true)
    (duals : product = .coNormal ∧ dual = .strong ∨
      product = .lexicographical ∧ dual = .lexicographical)
    (start : pair ∈ pairsOf first.nodes second.nodes)
    (goal : target ∈ pairsOf first.nodes second.nodes) (apart : pair ≠ target) :
    dual.links (complemented {} first) (complemented {} second) pair target =
      if product.links first second pair target = 0 then 1 else 0 := by
  obtain ⟨row, column⟩ := mem_pairsOf.mp start
  obtain ⟨row', column'⟩ := mem_pairsOf.mp goal
  have differ : first.adjacent pair.1 target.1 = true → pair.1 ≠ target.1 := ne_of_adjacent simple
  have differ' : second.adjacent pair.2 target.2 = true → pair.2 ≠ target.2 :=
    ne_of_adjacent simple'
  have apart' : ¬ (pair.1 = target.1 ∧ pair.2 = target.2) := fun same =>
    apart (Prod.ext same.1 same.2)
  rw [links, links, if_neg apart, if_neg apart]
  -- On both sides it only counts which coordinates are equal and which are adjacent.
  rcases duals with ⟨rfl, rfl⟩ | ⟨rfl, rfl⟩
  · rw [times_strong_add, times_cartesian_add, times_tensor_add, times_coNormal_add,
      multiplicity_of_isSimple simple, multiplicity_of_isSimple simple',
      joined_complemented_of_isSimple wf simple row row',
      joined_complemented_of_isSimple other simple' column column']
    grind
  · rw [times_lexicographical_add, times_lexicographical_add,
      multiplicity_of_isSimple simple, multiplicity_of_isSimple simple',
      joined_complemented_of_isSimple wf simple row row',
      joined_complemented_of_isSimple other simple' column column']
    grind

/-- Between different pairs the modular product of complements has the edges of the modular
product. -/
theorem links_modular_complemented (wf : first.WellFormed) (other : second.WellFormed)
    (simple : first.isSimple = true) (simple' : second.isSimple = true)
    (start : pair ∈ pairsOf first.nodes second.nodes)
    (goal : target ∈ pairsOf first.nodes second.nodes) (apart : pair ≠ target) :
    Product.modular.links (complemented {} first) (complemented {} second) pair target =
      Product.modular.links first second pair target := by
  obtain ⟨row, column⟩ := mem_pairsOf.mp start
  obtain ⟨row', column'⟩ := mem_pairsOf.mp goal
  rw [links, links, if_neg apart, if_neg apart, times_modular_of_isSimple simple simple',
    times_modular_of_isSimple (isSimple_complemented wf (hasLoops_of_isSimple simple))
      (isSimple_complemented other (hasLoops_of_isSimple simple'))]
  refine if_congr (and_congr_right fun differ => and_congr_right fun differ' => ?_) rfl rfl
  rw [adjacent_complemented wf differ row row', adjacent_complemented other differ' column column',
    Bool.not_inj_iff]

/-- A product and its complement, read by pairs. -/
theorem Built.links?_complemented {product : Product} {before after : Graph} {grid : Grid}
    (built : product.Built first second before after grid) (wf : after.WellFormed)
    (start : pair ∈ pairsOf first.nodes second.nodes)
    (goal : target ∈ pairsOf first.nodes second.nodes) (apart : pair ≠ target) :
    grid.links? (complemented {} after) pair target =
      some (if product.links first second pair target = 0 then 1 else 0) := by
  obtain ⟨source, sink, stands⟩ := built.stands start goal
  have differ : source ≠ sink := fun meet => apart (stands.same_iff.mp meet)
  have counted : (complemented {} after).edges.countP (fun e => e.joins source sink) =
      if product.links first second pair target = 0 then 1 else 0 := by
    rw [Graph.countP_joins _ differ, joined_complemented wf differ stands.source_mem stands.sink_mem,
      links, if_neg apart, ← stands.forth, ← stands.back]
    simp only [adjacent_iff]
    split <;> split <;> omega
  simp only [Grid.links?, stands.source_eq, stands.sink_eq, ← counted]
  rfl

end Product

namespace Workspace

variable {w : Workspace} {first second : GraphId}

/-- Copies of two graphs that are then complemented. -/
theorem Room.run_complements {places : List Place} (room : w.Room [first, second] [] places) :
    ∃ after c c', w.Transcript
        [(.copy first, .graph c), (.complement c {}, .done), (.copy second, .graph c'),
          (.complement c' {}, .done)] after ∧
      after.Room [c', c, first, second] [] places ∧
      after.graph c = Graph.complemented {} (w.graph first) ∧
      after.graph c' = Graph.complemented {} (w.graph second) ∧
      w.Retains [first, second] [] after := by
  obtain ⟨u₁, ran₁, room₁, copied, kept₁⟩ := room.run_copy first
  obtain ⟨_, u₂, ran₂, room₂, turned, kept₂⟩ := room₁.run_complement
    (fun used => Nat.lt_irrefl _ (room.graphs_held _ used)) {}
  obtain ⟨u₃, ran₃, room₃, copied', kept₃⟩ := room₂.run_copy second
  obtain ⟨_, after, ran₄, room₄, turned', kept₄⟩ := room₃.run_complement
    (fun used => Nat.lt_irrefl _ (room₂.graphs_held _ used)) {}
  have old := kept₁.trans kept₂ (by simp) (by simp)
  refine ⟨after, w.graphs.length, u₂.graphs.length,
    .cons ran₁ (.cons ran₂ (.cons ran₃ (.cons ran₄ (.nil _)))), room₄, ?_, ?_,
    old.trans (kept₃.trans kept₄ (by simp) (by simp)) (by simp) (by simp)⟩
  · rw [kept₄.graph_eq _ (by simp), kept₃.graph_eq _ (by simp), turned, copied]
  · rw [turned', copied', old.graph_eq second (by simp)]

/-- In every workspace that commands lead to, products of two simple graphs and of the complements
of their copies, put in places of their own, succeed together with all complements. Between any two
different pairs, the complement of the co-normal product has the edges of the strong product of the
complements, the complement of the lexicographical product those of the lexicographical product of
the complements, and the modular product those of the modular product of the complements. -/
theorem products_and_complements {p q : Place} (room : w.Room [first, second] [] [p, q])
    (simple : (w.graph first).isSimple = true) (simple' : (w.graph second).isSimple = true) :
    (∀ kind dual, kind = "co_normal" ∧ dual = "strong" ∨
        kind = "lexicographical" ∧ dual = "lexicographical" →
      ∃ after c c' i j, w.Transcript
          [(.copy first, .graph c), (.complement c {}, .done), (.copy second, .graph c'),
            (.complement c' {}, .done),
            (.product (.text kind) none first second p.destination p.grid, .grid i),
            (.complement p.destination {}, .done),
            (.product (.text dual) none c c' q.destination q.grid, .grid j)] after ∧
        Product.SameLinks (w.graph first) (w.graph second) (after.grid i) (after.grid j)
          (after.graph p.destination) (after.graph q.destination)) ∧
    ∃ after c c' i j, w.Transcript
        [(.copy first, .graph c), (.complement c {}, .done), (.copy second, .graph c'),
          (.complement c' {}, .done),
          (.product (.text "modular") none first second p.destination p.grid, .grid i),
          (.product (.text "modular") none c c' q.destination q.grid, .grid j)] after ∧
      Product.SameLinks (w.graph first) (w.graph second) (after.grid i) (after.grid j)
        (after.graph p.destination) (after.graph q.destination) := by
  have wf := room.reached.wellFormed first
  have other := room.reached.wellFormed second
  obtain ⟨u₁, c, c', prepared, room₁, here, there, kept₁⟩ := room.run_complements
  constructor
  · intro kind dual duals
    obtain ⟨product, product', asked, asked', duals'⟩ : ∃ product product',
        Product.ofRequest (.text kind) none = .ok product ∧
        Product.ofRequest (.text dual) none = .ok product' ∧
        (product = .coNormal ∧ product' = .strong ∨
          product = .lexicographical ∧ product' = .lexicographical) := by
      rcases duals with ⟨rfl, rfl⟩ | ⟨rfl, rfl⟩
      · exact ⟨_, _, rfl, rfl, .inl ⟨rfl, rfl⟩⟩
      · exact ⟨_, _, rfl, rfl, .inr ⟨rfl, rfl⟩⟩
    obtain ⟨_, u₂, i, ran₂, room₂, built, kept₂⟩ := room₁.run_product first second (by simp)
      (by simp) asked (Product.requireRoot_of_rootless asked _)
    obtain ⟨_, u₃, ran₃, room₃, turned, kept₃⟩ :=
      room₂.run_complement (room₁.destinations_apart p (by simp)) {}
    obtain ⟨_, after, j, ran₄, _, built', kept₄⟩ := room₃.run_product c c' (by simp) (by simp)
      asked' (Product.requireRoot_of_rootless asked' _)
    rw [kept₁.graph_eq first (by simp), kept₁.graph_eq second (by simp)] at built
    rw [kept₃.graph_eq c (by simp), kept₃.graph_eq c' (by simp), kept₂.graph_eq c (by simp),
      kept₂.graph_eq c' (by simp), here, there] at built'
    refine ⟨after, c, c', i, j,
      prepared.append (.cons ran₂ (.cons ran₃ (.cons ran₄ (.nil _)))), ?_⟩
    intro pair start target goal apart
    rw [kept₄.graph_eq p.destination (by simp), turned, kept₄.grid_eq i (by simp),
      kept₃.grid_eq i (by simp)]
    refine ⟨_, built.links?_complemented (room₂.reached.wellFormed _) start goal apart, ?_⟩
    rw [built'.links?_eq start goal,
      Product.links_complemented wf other simple simple' duals' start goal apart]
  · obtain ⟨_, u₂, i, ran₂, room₂, built, kept₂⟩ := room₁.run_product first second (by simp)
      (by simp) (rfl : Product.ofRequest (.text "modular") none = .ok .modular) rfl
    obtain ⟨_, after, j, ran₃, _, built', kept₃⟩ := room₂.run_product c c' (by simp) (by simp)
      (rfl : Product.ofRequest (.text "modular") none = .ok .modular) rfl
    rw [kept₁.graph_eq first (by simp), kept₁.graph_eq second (by simp)] at built
    rw [kept₂.graph_eq c (by simp), kept₂.graph_eq c' (by simp), here, there] at built'
    refine ⟨after, c, c', i, j, prepared.append (.cons ran₂ (.cons ran₃ (.nil _))), ?_⟩
    intro pair start target goal apart
    rw [kept₃.graph_eq p.destination (by simp), kept₃.grid_eq i (by simp)]
    refine ⟨_, built.links?_eq start goal, ?_⟩
    rw [built'.links?_eq start goal,
      Product.links_modular_complemented wf other simple simple' start goal apart]

/-- Two simple factors, two places for products and a grid. -/
def simpleFactorsForTwo : List Command := simpleFactors ++ [.newGraph, .newGrid]

theorem products_and_complements_simpleFactorsForTwo :
    (runAll {} simpleFactorsForTwo).Room [0, 1] [] [⟨2, some 0⟩, ⟨3, none⟩] ∧
    ((runAll {} simpleFactorsForTwo).graph 0).isSimple = true ∧
    ((runAll {} simpleFactorsForTwo).graph 1).isSimple = true ∧
    ∃ after c c' i j, (runAll {} simpleFactorsForTwo).Transcript
        [(.copy 0, .graph c), (.complement c {}, .done), (.copy 1, .graph c'),
          (.complement c' {}, .done),
          (.product (.text "co_normal") none 0 1 2 (some 0), .grid i), (.complement 2 {}, .done),
          (.product (.text "strong") none c c' 3 none, .grid j)] after ∧
      Product.SameLinks ((runAll {} simpleFactorsForTwo).graph 0)
        ((runAll {} simpleFactorsForTwo).graph 1) (after.grid i) (after.grid j) (after.graph 2)
        (after.graph 3) := by
  have room : (runAll {} simpleFactorsForTwo).Room [0, 1] [] [⟨2, some 0⟩, ⟨3, none⟩] := by
    refine ⟨by decide +kernel, reachable_runAll .empty ?_⟩
    simp [simpleFactorsForTwo, simpleFactors, Command.Proper]
  have simple : ((runAll {} simpleFactorsForTwo).graph 0).isSimple = true := by decide +kernel
  have simple' : ((runAll {} simpleFactorsForTwo).graph 1).isSimple = true := by decide +kernel
  exact ⟨room, simple, simple',
    (products_and_complements room simple simple').1 _ _ (.inl ⟨rfl, rfl⟩)⟩

end Workspace

end Multigraph
