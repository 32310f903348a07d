import Multigraph.Proofs.Product.Pairs
import Multigraph.Proofs.Product.Room

/-!
Products of a disjoint union. What a product draws between two pairs it reads off the edges between
their coordinates (`times_congr_first`, `times_congr_second`). Between the parts of a disjoint union
there are none, so most products draw nothing from the one to the other (`times_across_first`,
`times_across_second`), and a product of the union is made up of the products of its parts
(`Distributes`).
-/
namespace Multigraph

open Multigraph.Graph Build

namespace Product

variable {product : Product} {first first' second second' : Graph} {u v u' v' x y x' y' : NodeId}

/-! ## Edges between pairs -/

/-- A product sees of its first factor the edges between two coordinates, and whether the two are
one. -/
theorem times_congr_first (same : u = v ↔ u' = v')
    (forth : first.multiplicity u v = first'.multiplicity u' v')
    (back : first.multiplicity v u = first'.multiplicity v' u') (product : Product) (second : Graph)
    (x y : NodeId) :
    product.times first second (u, x) (v, y) = product.times first' second (u', x) (v', y) := by
  have beside := adjacent_congr forth back
  have turned : v = u ↔ v' = u' := by rw [eq_comm, same, eq_comm]
  cases product <;> simp only [times, forth, back, same, ne_eq, turned, beside]

/-- Of their second factors these products see no more than that. -/
theorem times_congr_second (plain : product = .cartesian ∨ product = .tensor ∨ product = .strong)
    (same : x = y ↔ x' = y') (forth : second.multiplicity x y = second'.multiplicity x' y')
    (first : Graph) (u v : NodeId) :
    product.times first second (u, x) (v, y) = product.times first second' (u, x') (v, y') := by
  rcases plain with rfl | rfl | rfl <;> simp only [times, forth, same]

/-- Where first coordinates are apart and not joined, most products draw nothing. -/
theorem times_across_first (plain : product ≠ .coNormal) (plain' : product ≠ .modular)
    (apart : u ≠ v) (forth : first.multiplicity u v = 0) (back : first.multiplicity v u = 0)
    (second : Graph) (x y : NodeId) : product.times first second (u, x) (v, y) = 0 := by
  cases product with
  | coNormal => exact absurd rfl plain
  | modular => exact absurd rfl plain'
  | cartesian | tensor | lexicographical | strong | rooted => simp [times, apart, forth, back]

/-- Where second coordinates are apart and not joined, these products draw nothing. -/
theorem times_across_second (plain : product = .cartesian ∨ product = .tensor ∨ product = .strong)
    (apart : x ≠ y) (none_joined : second.multiplicity x y = 0) (first : Graph) (u v : NodeId) :
    product.times first second (u, x) (v, y) = 0 := by
  rcases plain with rfl | rfl | rfl <;> simp [times, apart, none_joined]

/-! ## Products read by their parts -/

/-- The product with a disjoint union, read pair by pair, has the edges of the products with the two
graphs and no others. `pair` puts a node of the union and a node of the other factor in order. -/
structure Distributes (pair : NodeId → NodeId → NodeId × NodeId) (first second other : Graph)
    (image : NodeId → NodeId) (whole left right : NodeId × NodeId → NodeId × NodeId → Option Nat) :
    Prop where
  old : ∀ u ∈ first.nodes, ∀ v ∈ first.nodes, ∀ x ∈ other.nodes, ∀ y ∈ other.nodes, ∃ n,
    whole (pair u x) (pair v y) = some n ∧ left (pair u x) (pair v y) = some n
  copies : ∀ a ∈ second.nodes, ∀ b ∈ second.nodes, ∀ x ∈ other.nodes, ∀ y ∈ other.nodes, ∃ n,
    whole (pair (image a) x) (pair (image b) y) = some n ∧ right (pair a x) (pair b y) = some n
  across : ∀ u ∈ first.nodes, ∀ b ∈ second.nodes, ∀ x ∈ other.nodes, ∀ y ∈ other.nodes,
    whole (pair u x) (pair (image b) y) = some 0 ∧ whole (pair (image b) y) (pair u x) = some 0

/-- Read pair by pair, a product of two factors has the edges that are counted. One of the factors
varies, and `pair` puts its nodes and those of the other in order. -/
def Reads (pair : NodeId → NodeId → NodeId × NodeId)
    (count : Graph → NodeId × NodeId → NodeId × NodeId → Nat) (factor other : Graph)
    (reading : NodeId × NodeId → NodeId × NodeId → Option Nat) : Prop :=
  ∀ u ∈ factor.nodes, ∀ v ∈ factor.nodes, ∀ x ∈ other.nodes, ∀ y ∈ other.nodes,
    reading (pair u x) (pair v y) = some (count factor (pair u x) (pair v y))

variable {pair : NodeId → NodeId → NodeId × NodeId}
  {count : Graph → NodeId × NodeId → NodeId × NodeId → Nat} {other : Graph}
  {whole left right : NodeId × NodeId → NodeId × NodeId → Option Nat}

/-- Products distribute if their edges depend on the edges between the coordinates, in either
direction, and if there are none where the coordinates are apart and not joined. -/
theorem distributes_of_reads (wf : first.WellFormed) (wf' : second.WellFormed)
    (congr : ∀ {g h : Graph} {u v u' v' : NodeId}, (u = v ↔ u' = v') →
      g.multiplicity u v = h.multiplicity u' v' → g.multiplicity v u = h.multiplicity v' u' →
      ∀ x y, count g (pair u x) (pair v y) = count h (pair u' x) (pair v' y))
    (across : ∀ {g : Graph} {u v : NodeId}, u ≠ v → g.multiplicity u v = 0 →
      g.multiplicity v u = 0 → ∀ x y, count g (pair u x) (pair v y) = 0)
    (reads : Reads pair count (first.withCopy second) other whole)
    (reads' : Reads pair count first other left) (reads'' : Reads pair count second other right) :
    Distributes pair first second other (handleOf first.nextNode second.nodes) whole left right := by
  have old : ∀ u ∈ first.nodes, u ∈ (first.withCopy second).nodes := fun u held =>
    (mem_nodes_withCopy wf').mpr (.inl held)
  have copy : ∀ a ∈ second.nodes,
      handleOf first.nextNode second.nodes a ∈ (first.withCopy second).nodes := fun a held =>
    (mem_nodes_withCopy wf').mpr (.inr ⟨a, held, rfl⟩)
  refine ⟨?_, ?_, ?_⟩
  · intro u held v held' x inside y inside'
    refine ⟨_, ?_, reads' u held v held' x inside y inside'⟩
    rw [reads u (old u held) v (old v held') x inside y inside']
    exact congrArg some (congr Iff.rfl (multiplicity_withCopy_old wf wf' (.inl held))
      (multiplicity_withCopy_old wf wf' (.inl held')) x y)
  · intro a held b held' x inside y inside'
    refine ⟨_, ?_, reads'' a held b held' x inside y inside'⟩
    rw [reads _ (copy a held) _ (copy b held') x inside y inside']
    exact congrArg some (congr ⟨handleOf_inj held, congrArg _⟩
      (multiplicity_withCopy_copies wf wf' a b) (multiplicity_withCopy_copies wf wf' b a) x y)
  · intro u held b held' x inside y inside'
    obtain ⟨forth, back⟩ := multiplicity_withCopy_across wf wf' held b
    have apart := Int.ne_of_lt (old_lt_copy wf held second.nodes b)
    constructor
    · rw [reads u (old u held) _ (copy b held') x inside y inside', across apart forth back]
    · rw [reads _ (copy b held') u (old u held) y inside' x inside, across apart.symm back forth]

variable {before₁ before₂ before₃ g₁ g₂ g₃ : Graph} {i j k : Grid}

/-- Most products distribute over a disjoint union in the place of their first factor. -/
theorem distributes_first (wf : first.WellFormed) (wf' : second.WellFormed)
    (plain : product ≠ .coNormal) (plain' : product ≠ .modular)
    (built : product.Built (first.withCopy second) other before₁ g₁ i)
    (built' : product.Built first other before₂ g₂ j)
    (built'' : product.Built second other before₃ g₃ k) :
    Distributes Prod.mk first second other (handleOf first.nextNode second.nodes)
      (i.multiplicity? g₁) (j.multiplicity? g₂) (k.multiplicity? g₃) := by
  have reads : ∀ {factor before after : Graph} {grid : Grid},
      product.Built factor other before after grid →
      Reads Prod.mk (fun factor => product.times factor other) factor other
        (grid.multiplicity? after) := fun built _ held _ held' _ inside _ inside' =>
    built.multiplicity?_eq (mem_pairsOf.mpr ⟨held, inside⟩) (mem_pairsOf.mpr ⟨held', inside'⟩)
  exact distributes_of_reads wf wf'
    (fun same forth back x y => times_congr_first same forth back product other x y)
    (fun apart forth back x y => times_across_first plain plain' apart forth back other x y)
    (reads built) (reads built') (reads built'')

/-- Some also do so in the place of their second. -/
theorem distributes_second (wf : first.WellFormed) (wf' : second.WellFormed)
    (plain : product = .cartesian ∨ product = .tensor ∨ product = .strong)
    (built : product.Built other (first.withCopy second) before₁ g₁ i)
    (built' : product.Built other first before₂ g₂ j)
    (built'' : product.Built other second before₃ g₃ k) :
    Distributes (fun u x => (x, u)) first second other (handleOf first.nextNode second.nodes)
      (i.multiplicity? g₁) (j.multiplicity? g₂) (k.multiplicity? g₃) := by
  have reads : ∀ {factor before after : Graph} {grid : Grid},
      product.Built other factor before after grid →
      Reads (fun u x => (x, u)) (fun factor => product.times other factor) factor other
        (grid.multiplicity? after) := fun built _ held _ held' _ inside _ inside' =>
    built.multiplicity?_eq (mem_pairsOf.mpr ⟨inside, held⟩) (mem_pairsOf.mpr ⟨inside', held'⟩)
  exact distributes_of_reads wf wf'
    (fun same forth _ x y => times_congr_second plain same forth other x y)
    (fun apart forth _ x y => times_across_second plain apart forth other x y)
    (reads built) (reads built') (reads built'')

end Product

namespace Workspace

variable {w : Workspace} {graphs : List GraphId} {p q r : Place} {kind : Datum}
  {root : Option NodeId} {product : Product}

/-- Three products of one kind, put in places of their own, of factors that are in use. -/
theorem Room.run_products (room : w.Room graphs [] [p, q, r]) (f g h f' g' h' : GraphId)
    (used : ∀ id ∈ [f, g, h, f', g', h'], id ∈ graphs)
    (asked : Product.ofRequest kind root = .ok product)
    (rooted : ∀ id ∈ [f', g', h'], product.requireRoot (w.graph id) = .ok ()) :
    ∃ after i j k before before' before'', w.Transcript
        [(.product kind root f f' p.destination p.grid, .grid i),
          (.product kind root g g' q.destination q.grid, .grid j),
          (.product kind root h h' r.destination r.grid, .grid k)] after ∧
      product.Built (w.graph f) (w.graph f') before (after.graph p.destination) (after.grid i) ∧
      product.Built (w.graph g) (w.graph g') before' (after.graph q.destination) (after.grid j) ∧
      product.Built (w.graph h) (w.graph h') before'' (after.graph r.destination)
        (after.grid k) := by
  simp only [List.forall_mem_cons, List.not_mem_nil, false_implies, implies_true, and_true]
    at used rooted
  obtain ⟨uf, ug, uh, uf', ug', uh'⟩ := used
  obtain ⟨rf, rg, rh⟩ := rooted
  obtain ⟨_, u, i, ran, room₁, built, kept⟩ := room.run_product f f' uf uf' asked rf
  rw [← kept.graph_eq g' ug'] at rg
  rw [← kept.graph_eq h' uh'] at rh
  obtain ⟨_, v, j, ran', room₂, built', kept'⟩ :=
    room₁.run_product g g' (.tail _ ug) (.tail _ ug') asked rg
  rw [← kept'.graph_eq h' (.tail _ uh')] at rh
  obtain ⟨_, after, k, ran'', _, built'', kept''⟩ :=
    room₂.run_product h h' (.tail _ (.tail _ uh)) (.tail _ (.tail _ uh')) asked rh
  -- All products are of the factors as they were, and the earlier ones are still there.
  have early := kept.trans kept' (List.subset_cons_self _ _) (List.nil_subset _)
  have late := kept'.trans kept'' (List.subset_cons_self _ _) (List.subset_cons_self _ _)
  rw [kept.graph_eq g ug, kept.graph_eq g' ug', ← kept''.graph_eq q.destination (by simp),
    ← kept''.grid_eq j (by simp)] at built'
  rw [early.graph_eq h uh, early.graph_eq h' uh'] at built''
  rw [← late.graph_eq p.destination (by simp), ← late.grid_eq i (by simp)] at built
  exact ⟨after, i, j, k, _, _, _, .cons ran (.cons ran' (.cons ran'' (.nil _))), built, built',
    built''⟩

/-- In every workspace that commands lead to, let `ab` be a copy of a graph after a disjoint union
with another, so that its nodes are those of the first and the images of those of the second, which
the new correspondence reads. A cartesian, tensor, lexicographical, strong or rooted product of `ab`
with a third graph has between two pairs of the first graph the edges of the product with the first,
between the images of two pairs of the second those of the product with the second, and none between
the one and the other. For cartesian, tensor and strong products the same holds with the factors
exchanged. The three products are put in places of their own, and all of this succeeds. -/
theorem products_distribute {a b h : GraphId} (room : w.Room [a, b, h] [] [p, q, r]) :
    ∃ v f image,
      w.Transcript [(.copy a, .graph w.graphs.length),
        (.disjointUnion w.graphs.length b, .map f)] v ∧
      (v.graph w.graphs.length).nodes = (w.graph a).nodes ++ (w.graph b).nodes.map image ∧
      (∀ node ∈ (w.graph b).nodes, v.readKey f node = .ok (some (.int (image node)))) ∧
      ∀ (kind : Datum) (root : Option NodeId) (product : Product),
        Product.ofRequest kind root = .ok product →
        (product ≠ .coNormal → product ≠ .modular →
          product.requireRoot (w.graph h) = .ok () → ∃ after i j k, v.Transcript
            [(.product kind root w.graphs.length h p.destination p.grid, .grid i),
              (.product kind root a h q.destination q.grid, .grid j),
              (.product kind root b h r.destination r.grid, .grid k)] after ∧
            Product.Distributes Prod.mk (w.graph a) (w.graph b) (w.graph h) image
              ((after.grid i).multiplicity? (after.graph p.destination))
              ((after.grid j).multiplicity? (after.graph q.destination))
              ((after.grid k).multiplicity? (after.graph r.destination))) ∧
        (product = .cartesian ∨ product = .tensor ∨ product = .strong →
          ∃ after i j k, v.Transcript
            [(.product kind root h w.graphs.length p.destination p.grid, .grid i),
              (.product kind root h a q.destination q.grid, .grid j),
              (.product kind root h b r.destination r.grid, .grid k)] after ∧
            Product.Distributes (fun u x => (x, u)) (w.graph a) (w.graph b) (w.graph h) image
              ((after.grid i).multiplicity? (after.graph p.destination))
              ((after.grid j).multiplicity? (after.graph q.destination))
              ((after.grid k).multiplicity? (after.graph r.destination))) := by
  have wf := room.reached.wellFormed a
  have wf' := room.reached.wellFormed b
  have new : w.graphs.length ∉ [a, b, h] := fun used =>
    Nat.lt_irrefl _ (room.graphs_held _ used)
  obtain ⟨u, ran, room₁, copied, kept⟩ := room.run_copy a
  obtain ⟨v, f, ran', room₂, united, reads, kept'⟩ :=
    room₁.run_disjointUnion new (show b ∈ [a, b, h] by simp)
  rw [copied, kept.graph_eq b (by simp)] at united
  rw [copied, kept.graph_eq b (by simp)] at reads
  have same := kept.trans kept' (List.Subset.refl _) (List.Subset.refl _)
  have graph_a := same.graph_eq a (by simp)
  have graph_b := same.graph_eq b (by simp)
  have graph_h := same.graph_eq h (by simp)
  refine ⟨v, f, handleOf (w.graph a).nextNode (w.graph b).nodes, .cons ran (.cons ran' (.nil _)),
    by rw [united, nodes_withCopy _ wf'], reads, fun kind root product asked => ⟨?_, ?_⟩⟩
  · intro plain plain' rooted
    obtain ⟨after, i, j, k, _, _, _, made, built, built', built''⟩ := room₂.run_products
      w.graphs.length a b h h h (by simp) asked (by simpa [graph_h] using rooted)
    rw [united, graph_h] at built
    rw [graph_a, graph_h] at built'
    rw [graph_b, graph_h] at built''
    exact ⟨after, i, j, k, made,
      Product.distributes_first wf wf' plain plain' built built' built''⟩
  · intro plain
    have rooted : ∀ second, product.requireRoot second = .ok () := by
      rcases plain with rfl | rfl | rfl <;> exact fun _ => rfl
    obtain ⟨after, i, j, k, _, _, _, made, built, built', built''⟩ := room₂.run_products
      h h h w.graphs.length a b (by simp) asked fun _ _ => rooted _
    rw [united, graph_h] at built
    rw [graph_a, graph_h] at built'
    rw [graph_b, graph_h] at built''
    exact ⟨after, i, j, k, made, Product.distributes_second wf wf' plain built built' built''⟩

/-- Two factors with loops and parallel edges, a destination in use, two empty ones and a grid. -/
def factorsForThree : List Command := factors ++ [.newGraph, .newGraph, .newGrid]

theorem products_distribute_factorsForThree :
    (runAll {} factorsForThree).Room [0, 1, 0] [] [⟨2, none⟩, ⟨3, some 0⟩, ⟨4, none⟩] ∧
    Product.ofRequest (.text "rooted") (some 2) = .ok (.rooted 2) ∧
    (Product.rooted 2).requireRoot ((runAll {} factorsForThree).graph 0) = .ok () ∧
    ∃ v f image, (runAll {} factorsForThree).Transcript
        [(.copy 0, .graph 5), (.disjointUnion 5 1, .map f)] v ∧
      (v.graph 5).nodes = [1, 2, image 0, image 2] ∧
      v.readKey f 2 = .ok (some (.int (image 2))) ∧
      (∃ after i j k, v.Transcript
          [(.product (.text "rooted") (some 2) 5 0 2 none, .grid i),
            (.product (.text "rooted") (some 2) 0 0 3 (some 0), .grid j),
            (.product (.text "rooted") (some 2) 1 0 4 none, .grid k)] after ∧
        Product.Distributes Prod.mk ((runAll {} factorsForThree).graph 0)
          ((runAll {} factorsForThree).graph 1) ((runAll {} factorsForThree).graph 0) image
          ((after.grid i).multiplicity? (after.graph 2))
          ((after.grid j).multiplicity? (after.graph 3))
          ((after.grid k).multiplicity? (after.graph 4))) ∧
      ∃ after i j k, v.Transcript
          [(.product (.text "strong") none 0 5 2 none, .grid i),
            (.product (.text "strong") none 0 0 3 (some 0), .grid j),
            (.product (.text "strong") none 0 1 4 none, .grid k)] after ∧
        (∃ n, (after.grid i).multiplicity? (after.graph 2) (1, 2) (2, 1) = some n ∧
          (after.grid j).multiplicity? (after.graph 3) (1, 2) (2, 1) = some n) ∧
        (after.grid i).multiplicity? (after.graph 2) (1, 2) (2, image 0) = some 0 := by
  have room : (runAll {} factorsForThree).Room [0, 1, 0] []
      [⟨2, none⟩, ⟨3, some 0⟩, ⟨4, none⟩] := by
    refine ⟨by decide +kernel, reachable_runAll .empty ?_⟩
    simp [factorsForThree, factors, Command.Proper]
  have asked : Product.ofRequest (.text "rooted") (some 2) = .ok (.rooted 2) := by rfl
  have rooted : (Product.rooted 2).requireRoot ((runAll {} factorsForThree).graph 0) = .ok () :=
    Product.requireRoot_rooted.mpr (by decide +kernel)
  have length : (runAll {} factorsForThree).graphs.length = 5 := by decide +kernel
  have old : ((runAll {} factorsForThree).graph 0).nodes = [1, 2] := by decide +kernel
  have other : ((runAll {} factorsForThree).graph 1).nodes = [0, 2] := by decide +kernel
  obtain ⟨v, f, image, made, nodes, reads, products⟩ := products_distribute room
  rw [length] at made nodes products
  rw [old, other] at nodes
  rw [other] at reads
  refine ⟨room, asked, rooted, v, f, image, made, nodes, reads 2 (by decide),
    (products _ _ _ asked).1 (by decide) (by decide) rooted, ?_⟩
  obtain ⟨after, i, j, k, multiplied, distributes⟩ :=
    (products (.text "strong") none .strong rfl).2 (.inr (.inr rfl))
  have one : (1 : NodeId) ∈ ((runAll {} factorsForThree).graph 0).nodes := by decide +kernel
  have two : (2 : NodeId) ∈ ((runAll {} factorsForThree).graph 0).nodes := by decide +kernel
  have zero : (0 : NodeId) ∈ ((runAll {} factorsForThree).graph 1).nodes := by decide +kernel
  exact ⟨after, i, j, k, multiplied, distributes.old 2 two 1 one 1 one 2 two,
    (distributes.across 2 two 0 zero 1 one 2 two).1⟩

end Workspace

end Multigraph
