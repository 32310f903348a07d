import Mathlib.Tactic.Ring
import Multigraph.Proofs.Product.Pairs
import Multigraph.Proofs.Product.Room

/-!
Products of products. The nodes of a product stand for pairs, so a product of a product with a third
graph has coordinates of coordinates, and three graphs may be multiplied from either side. Edge by
edge both ways lead to the same (`times_assoc`, `times_assoc_rooted`); a rooted product takes its
root from the product of the last two graphs then.
-/
namespace Multigraph

open Multigraph.Graph Build

namespace Product

variable {product : Product} {first second third left right before : Graph} {grid grid' : Grid}
  {v₁ v₂ v₃ w₁ w₂ w₃ x y x' y' : NodeId}

/-- Multiplied from either side, three graphs have the same edges. Both sides are told by the edges
of the three graphs and by which of the coordinates are equal. -/
theorem times_assoc (plain : product ≠ .modular) (rootless : ∀ r, product ≠ .rooted r)
    (stands : Stands product first second left grid (v₁, v₂) (w₁, w₂) x y)
    (stands' : Stands product second third right grid' (v₂, v₃) (w₂, w₃) x' y') :
    product.times left third (x, v₃) (y, w₃) = product.times first right (v₁, x') (w₁, y') := by
  have same : x = y ↔ v₁ = w₁ ∧ v₂ = w₂ := stands.same_iff.trans Prod.mk_inj
  have same' : x' = y' ↔ v₂ = w₂ ∧ v₃ = w₃ := stands'.same_iff.trans Prod.mk_inj
  have forth := stands.forth
  have back := stands.back
  have forth' := stands'.forth
  cases product with
  | cartesian =>
    simp only [times] at forth forth' ⊢
    rw [forth, forth']
    simp only [same, same']
    grind
  | tensor =>
    simp only [times] at forth back forth' ⊢
    rw [forth, back, forth']
    ring
  | lexicographical =>
    simp only [times] at forth forth' ⊢
    rw [forth, forth']
    simp only [same]
    grind
  | strong =>
    simp only [times] at forth back forth' ⊢
    rw [forth, back, forth']
    -- The inner product is read in both directions, so equalities come both ways round.
    simp only [same, same', eq_comm (a := w₁), eq_comm (a := w₂)]
    grind
  | coNormal =>
    simp only [times] at forth forth' ⊢
    rw [forth, forth', Nat.add_assoc]
  | modular => exact absurd rfl plain
  | rooted r => exact absurd rfl (rootless r)

/-- A rooted product of three graphs is the same from either side. -/
theorem times_assoc_rooted {r₂ r₃ deep : NodeId}
    (stands : Stands (.rooted r₂) first second left grid (v₁, v₂) (w₁, w₂) x y)
    (stands' : Stands (.rooted r₃) second third right grid' (v₂, v₃) (w₂, w₃) x' y')
    (atRoot : y' = deep ↔ (w₂, w₃) = (r₂, r₃)) :
    times (.rooted r₃) left third (x, v₃) (y, w₃) =
      times (.rooted deep) first right (v₁, x') (w₁, y') := by
  have same : x = y ↔ v₁ = w₁ ∧ v₂ = w₂ := stands.same_iff.trans Prod.mk_inj
  have same' : x' = y' ↔ v₂ = w₂ ∧ v₃ = w₃ := stands'.same_iff.trans Prod.mk_inj
  have forth := stands.forth
  have forth' := stands'.forth
  rw [Prod.mk.injEq] at atRoot
  simp only [times] at forth forth' ⊢
  rw [forth, forth']
  simp only [same, same', atRoot]
  grind

/-- Two products of one kind are the same, or both rooted. -/
theorem of_same_kind {kind : Datum} {root root' : Option NodeId} {product product' : Product}
    (asked : ofRequest kind root = .ok product) (asked' : ofRequest kind root' = .ok product') :
    (root = none ∧ product' = product ∧ ∀ r, product ≠ .rooted r) ∨
      ∃ r r', root = some r ∧ root' = some r' ∧ product = .rooted r ∧ product' = .rooted r' ∧
        ∀ deep, ofRequest kind (some deep) = .ok (.rooted deep) := by
  obtain ⟨named, found, chosen⟩ := of_ofRequest asked
  obtain ⟨_, found', chosen'⟩ := of_ofRequest asked'
  obtain rfl := Option.some.inj (found.symm.trans found')
  have request : ∀ root, ofRequest kind root = ofKind named root := by
    intro root
    rw [ofRequest, found]
  simp only [request]
  cases root <;> cases root' <;> cases named <;> cases chosen <;> cases chosen' <;> simp [ofKind]

/-- One product of three graphs has from any three nodes to any others the edges of another, the
nodes of the products that are their factors being found through grids. -/
def Agree (first second third : Graph) (i j k l : Grid) (outer outer' : Graph) : Prop :=
  ∀ v₁ ∈ first.nodes, ∀ v₂ ∈ second.nodes, ∀ v₃ ∈ third.nodes,
    ∀ w₁ ∈ first.nodes, ∀ w₂ ∈ second.nodes, ∀ w₃ ∈ third.nodes, ∃ x y x' y' n,
      i.node? v₁ v₂ = some x ∧ i.node? w₁ w₂ = some y ∧
      k.node? v₂ v₃ = some x' ∧ k.node? w₂ w₃ = some y' ∧
      j.multiplicity? outer (x, v₃) (y, w₃) = some n ∧
      l.multiplicity? outer' (v₁, x') (w₁, y') = some n

/-- When the product of the last two graphs is there, the product of the first graph with it can be
asked for, and it has the edges of the product from the other side. -/
theorem Built.exists_outer {kind : Datum} {root root' : Option NodeId} {product product' : Product}
    (asked : ofRequest kind root = .ok product) (asked' : ofRequest kind root' = .ok product')
    (plain : product ≠ .modular) (known : product.requireRoot second = .ok ())
    (known' : product'.requireRoot third = .ok ())
    (built : product'.Built second third before right grid') :
    ∃ outer, ofRequest kind (do grid'.node? (← root) (← root')) = .ok outer ∧
      outer.requireRoot right = .ok () ∧
      ∀ {first left grid v₁ v₂ v₃ w₁ w₂ w₃ x y x' y'},
        Stands product first second left grid (v₁, v₂) (w₁, w₂) x y →
        Stands product' second third right grid' (v₂, v₃) (w₂, w₃) x' y' →
        product'.times left third (x, v₃) (y, w₃) =
          outer.times first right (v₁, x') (w₁, y') := by
  rcases of_same_kind asked asked' with ⟨rfl, rfl, rootless⟩ | ⟨r, r', rfl, rfl, rfl, rfl, deeper⟩
  · refine ⟨product', asked, requireRoot_of_rootless asked right, ?_⟩
    intro first left grid v₁ v₂ v₃ w₁ w₂ w₃ x y x' y' stands stands'
    exact times_assoc plain rootless stands stands'
  · have held : (r, r') ∈ pairsOf second.nodes third.nodes :=
      mem_pairsOf.mpr ⟨requireRoot_rooted.mp known, requireRoot_rooted.mp known'⟩
    obtain ⟨deep, _, own⟩ := built.stands held held
    have request : ofRequest kind (grid'.node? r r') = .ok (.rooted deep) :=
      own.source_eq ▸ deeper deep
    refine ⟨.rooted deep, request, requireRoot_rooted.mpr own.source_mem, ?_⟩
    intro first left grid v₁ v₂ v₃ w₁ w₂ w₃ x y x' y' stands stands'
    obtain ⟨_, _, both⟩ := built.stands stands'.goal held
    obtain rfl := Option.some.inj (both.source_eq.symm.trans stands'.sink_eq)
    obtain rfl := Option.some.inj (both.sink_eq.symm.trans own.source_eq)
    exact times_assoc_rooted stands stands' both.same_iff

/-- Products from both sides agree if they have the same edges between the nodes that stand for the
coordinates. -/
theorem agree_of_built {product product' outer : Product} {g h before' before'' before₃ : Graph}
    {i j k l : Grid} (built : product.Built first second before left i)
    (onto : product'.Built left third before' g j)
    (built' : product'.Built second third before'' right k)
    (onto' : outer.Built first right before₃ h l)
    (same : ∀ {v₁ v₂ v₃ w₁ w₂ w₃ x y x' y'},
      Stands product first second left i (v₁, v₂) (w₁, w₂) x y →
      Stands product' second third right k (v₂, v₃) (w₂, w₃) x' y' →
      product'.times left third (x, v₃) (y, w₃) = outer.times first right (v₁, x') (w₁, y')) :
    Agree first second third i j k l g h := by
  intro v₁ held₁ v₂ held₂ v₃ held₃ w₁ held₁' w₂ held₂' w₃ held₃'
  have start : (v₁, v₂) ∈ pairsOf first.nodes second.nodes := mem_pairsOf.mpr ⟨held₁, held₂⟩
  have goal : (w₁, w₂) ∈ pairsOf first.nodes second.nodes := mem_pairsOf.mpr ⟨held₁', held₂'⟩
  have start' : (v₂, v₃) ∈ pairsOf second.nodes third.nodes := mem_pairsOf.mpr ⟨held₂, held₃⟩
  have goal' : (w₂, w₃) ∈ pairsOf second.nodes third.nodes := mem_pairsOf.mpr ⟨held₂', held₃'⟩
  obtain ⟨x, y, stands⟩ := built.stands start goal
  obtain ⟨x', y', stands'⟩ := built'.stands start' goal'
  refine ⟨x, y, x', y', _, stands.source_eq, stands.sink_eq, stands'.source_eq, stands'.sink_eq,
    onto.multiplicity?_eq (mem_pairsOf.mpr ⟨stands.source_mem, held₃⟩)
      (mem_pairsOf.mpr ⟨stands.sink_mem, held₃'⟩), ?_⟩
  rw [onto'.multiplicity?_eq (mem_pairsOf.mpr ⟨held₁, stands'.source_mem⟩)
    (mem_pairsOf.mpr ⟨held₁', stands'.sink_mem⟩), same stands stands']

end Product

namespace Workspace

/-- In every workspace that commands lead to, three graphs, perhaps the same, may be multiplied from
either side, the four products being put in places of their own. All products succeed, and from any
three nodes to any others there are as many edges either way, the nodes of products being found
through the grids. The products are cartesian, tensor, lexicographical, strong, co-normal or rooted;
if they are rooted, the product with the first graph has its root where the two roots meet. -/
theorem products_associate {w : Workspace} {first second third : GraphId} {p q r s : Place}
    (room : w.Room [first, second, third] [] [p, q, r, s]) {kind : Datum}
    {root root' : Option NodeId} {product product' : Product}
    (asked : Product.ofRequest kind root = .ok product)
    (asked' : Product.ofRequest kind root' = .ok product') (plain : product ≠ .modular)
    (known : product.requireRoot (w.graph second) = .ok ())
    (known' : product'.requireRoot (w.graph third) = .ok ()) :
    ∃ after i j k l, w.Transcript
        [(.product kind root first second p.destination p.grid, .grid i),
          (.product kind root' p.destination third q.destination q.grid, .grid j),
          (.product kind root' second third r.destination r.grid, .grid k),
          (.product kind (do (after.grid k).node? (← root) (← root')) first r.destination
            s.destination s.grid, .grid l)] after ∧
      Product.Agree (w.graph first) (w.graph second) (w.graph third) (after.grid i) (after.grid j)
        (after.grid k) (after.grid l) (after.graph q.destination)
        (after.graph s.destination) := by
  obtain ⟨_, u₁, i, ran₁, room₁, built₁, kept₁⟩ :=
    room.run_product first second (by simp) (by simp) asked known
  rw [← kept₁.graph_eq third (by simp)] at known'
  obtain ⟨_, u₂, j, ran₂, room₂, built₂, kept₂⟩ :=
    room₁.run_product p.destination third (by simp) (by simp) asked' known'
  rw [← kept₂.graph_eq third (by simp)] at known'
  obtain ⟨_, u₃, k, ran₃, room₃, built₃, kept₃⟩ :=
    room₂.run_product second third (by simp) (by simp) asked' known'
  -- The factors are as they were, so the product of the last two tells the outer product.
  have old₂ := kept₁.trans kept₂ (by simp) (by simp)
  have old₃ := old₂.trans kept₃ (by simp) (by simp)
  rw [kept₁.graph_eq third (by simp)] at built₂
  rw [old₂.graph_eq second (by simp), old₂.graph_eq third (by simp)] at built₃
  rw [old₂.graph_eq third (by simp)] at known'
  obtain ⟨outer, request, rooted, assoc⟩ := built₃.exists_outer asked asked' plain known known'
  obtain ⟨_, after, l, ran₄, _, built₄, kept₄⟩ :=
    room₃.run_product first r.destination (by simp) (by simp) request rooted
  have kept₂' := (kept₂.trans kept₃ (by simp) (by simp)).trans kept₄ (by simp) (by simp)
  have kept₃' := kept₃.trans kept₄ (by simp) (by simp)
  rw [← kept₂'.graph_eq p.destination (by simp), ← kept₂'.grid_eq i (by simp)] at built₁
  rw [← kept₂'.graph_eq p.destination (by simp), ← kept₃'.graph_eq q.destination (by simp),
    ← kept₃'.grid_eq j (by simp)] at built₂
  rw [← kept₄.graph_eq r.destination (by simp), ← kept₄.grid_eq k (by simp)] at built₃
  rw [old₃.graph_eq first (by simp), ← kept₄.graph_eq r.destination (by simp)] at built₄
  rw [← kept₄.graph_eq r.destination (by simp), ← kept₄.grid_eq k (by simp)] at assoc
  rw [← kept₄.grid_eq k (by simp)] at ran₄
  exact ⟨after, i, j, k, l, .cons ran₁ (.cons ran₂ (.cons ran₃ (.cons ran₄ (.nil _)))),
    Product.agree_of_built built₁ built₂ built₃ built₄ assoc⟩

/-- Two factors with loops and parallel edges, four places for products and a grid. -/
def factorsForFour : List Command := factors ++ [.newGraph, .newGraph, .newGraph, .newGrid]

theorem products_associate_factorsForFour :
    (runAll {} factorsForFour).Room [0, 1, 0] []
      [⟨2, none⟩, ⟨3, none⟩, ⟨4, some 0⟩, ⟨5, none⟩] ∧
    Product.ofRequest (.text "rooted") (some 2) = .ok (.rooted 2) ∧
    Product.ofRequest (.text "rooted") (some 1) = .ok (.rooted 1) ∧
    Product.rooted 2 ≠ .modular ∧
    (Product.rooted 2).requireRoot ((runAll {} factorsForFour).graph 1) = .ok () ∧
    (Product.rooted 1).requireRoot ((runAll {} factorsForFour).graph 0) = .ok () ∧
    ∃ after i j k l, (runAll {} factorsForFour).Transcript
        [(.product (.text "rooted") (some 2) 0 1 2 none, .grid i),
          (.product (.text "rooted") (some 1) 2 0 3 none, .grid j),
          (.product (.text "rooted") (some 1) 1 0 4 (some 0), .grid k),
          (.product (.text "rooted") ((after.grid k).node? 2 1) 0 4 5 none, .grid l)] after ∧
      Product.Agree ((runAll {} factorsForFour).graph 0) ((runAll {} factorsForFour).graph 1)
        ((runAll {} factorsForFour).graph 0) (after.grid i) (after.grid j) (after.grid k)
        (after.grid l) (after.graph 3) (after.graph 5) := by
  have room : (runAll {} factorsForFour).Room [0, 1, 0] []
      [⟨2, none⟩, ⟨3, none⟩, ⟨4, some 0⟩, ⟨5, none⟩] := by
    refine ⟨by decide +kernel, reachable_runAll .empty ?_⟩
    simp [factorsForFour, factors, Command.Proper]
  have asked : Product.ofRequest (.text "rooted") (some 2) = .ok (.rooted 2) := by rfl
  have asked' : Product.ofRequest (.text "rooted") (some 1) = .ok (.rooted 1) := by rfl
  have plain : Product.rooted 2 ≠ .modular := by decide
  have known : (Product.rooted 2).requireRoot ((runAll {} factorsForFour).graph 1) = .ok () :=
    Product.requireRoot_rooted.mpr (by decide +kernel)
  have known' : (Product.rooted 1).requireRoot ((runAll {} factorsForFour).graph 0) = .ok () :=
    Product.requireRoot_rooted.mpr (by decide +kernel)
  exact ⟨room, asked, asked', plain, known, known',
    products_associate room asked asked' plain known known'⟩

end Workspace

end Multigraph
