import Multigraph.Proofs.Product.Aliased
import Multigraph.Proofs.Product.Basic
import Multigraph.Proofs.Product.Room

/-!
Requests for products. A request is looked at before anything is built: its kind has to have one of
seven names and a root has to come with the rooted kind and with no other (`ofRequest_cases`), and
the root has to be a node of the second factor (`requireRoot_cases`). A request that passes cannot
fail any more, whatever the factors and whether or not the destination is one of them
(`product_total`).
-/
namespace Multigraph

open Multigraph.Action

theorem Datum.text_inj {s t : String} : Datum.text s = .text t ↔ s = t := by
  rw [Datum.text, Datum.text, Datum.scalar.injEq, Scalar.text.injEq]

theorem ProductKind.name_eq_rooted {kind : ProductKind} :
    kind.name = "rooted" ↔ kind = .rooted := by
  cases kind <;> decide

namespace Product

/-- The names of the kinds of product. -/
def kindNames : List String :=
  ["cartesian", "tensor", "lexicographical", "strong", "co_normal", "modular", "rooted"]

/-- A request that no product answers: its kind has no such name, or is rooted without a root, or
is another with a root. -/
def Unfit (kind : Datum) (root : Option NodeId) : Prop :=
  (∀ name ∈ kindNames, kind ≠ .text name) ∨ (kind = .text "rooted" ∧ root = none) ∨
    ∃ name ∈ kindNames, name ≠ "rooted" ∧ kind = .text name ∧ root ≠ none

/-- A request for a rooted product whose root is no node of the second factor. -/
def Rootless (kind : Datum) (root : Option NodeId) (second : Graph) : Prop :=
  ∃ r, kind = .text "rooted" ∧ root = some r ∧ r ∉ second.nodes

theorem kindNames_eq : kindNames = ProductKind.all.map ProductKind.name := rfl

theorem name_mem_kindNames (kind : ProductKind) : kind.name ∈ kindNames := by
  cases kind <;> decide

variable {kind : Datum} {root : Option NodeId} {second : Graph} {product : Product}

/-- What names no kind has none of the names. -/
theorem unfit_of_unnamed (unnamed : ProductKind.ofDatum? kind = none) : Unfit kind root := by
  refine .inl fun name listed named => ?_
  rw [kindNames_eq] at listed
  obtain ⟨known, _, rfl⟩ := List.mem_map.mp listed
  rw [named, ProductKind.ofDatum?_name] at unnamed
  cases unnamed

/-- A request for a kind of product is unfit if the rooted kind lacks a root or another kind has
one. -/
theorem unfit_iff_of_named (named : ProductKind) :
    Unfit (.text named.name) root ↔ (named = .rooted ↔ root = none) := by
  constructor
  · rintro (foreign | ⟨rooted, bare⟩ | ⟨name, _, other, same, given⟩)
    · exact absurd rfl (foreign named.name (name_mem_kindNames named))
    · exact iff_of_true (ProductKind.name_eq_rooted.mp (Datum.text_inj.mp rooted)) bare
    · refine iff_of_false (fun rooted => other ?_) given
      rw [← Datum.text_inj.mp same]
      exact ProductKind.name_eq_rooted.mpr rooted
  · intro alike
    by_cases rooted : named = .rooted
    · exact .inr (.inl ⟨congrArg Datum.text (ProductKind.name_eq_rooted.mpr rooted),
        alike.mp rooted⟩)
    · exact .inr (.inr ⟨named.name, name_mem_kindNames named,
        mt ProductKind.name_eq_rooted.mp rooted, rfl, mt alike.mpr rooted⟩)

/-- An unfit request is not about a root. -/
theorem not_rootless_of_unfit (unfit : Unfit kind root) : ¬ Rootless kind root second := by
  rintro ⟨r, rfl, rfl, _⟩
  have bare := ((unfit_iff_of_named .rooted).mp unfit).mp rfl
  cases bare

/-- A request is refused for its kind or for having or lacking a root exactly if it is unfit. -/
theorem ofRequest_cases (kind : Datum) (root : Option NodeId) :
    (Unfit kind root ∧
      ∃ failure, ofRequest kind root = .error failure ∧ failure.category = .configuration) ∨
    ¬ Unfit kind root ∧ ∃ product, ofRequest kind root = .ok product := by
  cases found : ProductKind.ofDatum? kind with
  | none =>
    refine .inl ⟨unfit_of_unnamed found, .unknownKind kind.quoted, ?_, rfl⟩
    rw [ofRequest, found]
  | some named =>
    obtain rfl := ProductKind.ofDatum?_eq_some found
    have asked : ofRequest (.text named.name) root = ofKind named root := by
      rw [ofRequest, found]
    rw [asked, unfit_iff_of_named]
    cases named with
    | rooted =>
      cases root with
      | none => exact .inl ⟨by simp, .rootRequired, rfl, rfl⟩
      | some r => exact .inr ⟨by simp, .rooted r, rfl⟩
    | _ =>
      cases root with
      | none => exact .inr ⟨by simp, _, rfl⟩
      | some r => exact .inl ⟨by simp, .rootRefused _, rfl, rfl⟩

/-- A product that has been asked for is refused exactly if its root is no node of the second
factor. -/
theorem requireRoot_cases (asked : ofRequest kind root = .ok product) (second : Graph) :
    (Rootless kind root second ∧
      ∃ failure, product.requireRoot second = .error failure ∧ failure.category = .graph) ∨
    ¬ Rootless kind root second ∧ product.requireRoot second = .ok () := by
  obtain ⟨named, found, chosen⟩ := of_ofRequest asked
  obtain rfl := ProductKind.ofDatum?_eq_some found
  by_cases rooted : named = .rooted
  · subst rooted
    cases root with
    | none => cases chosen
    | some r =>
      cases chosen
      by_cases held : r ∈ second.nodes
      · refine .inr ⟨?_, if_pos held⟩
        rintro ⟨_, _, same, foreign⟩
        cases same
        exact foreign held
      · exact .inl ⟨⟨r, rfl, rfl, held⟩, .missingRoot r, if_neg held, rfl⟩
  · have other : ¬ Rootless (.text named.name) root second := fun ⟨_, same, _⟩ =>
      rooted (ProductKind.name_eq_rooted.mp (Datum.text_inj.mp same))
    refine .inr ⟨other, ?_⟩
    cases named with
    | rooted => exact absurd rfl rooted
    | _ =>
      cases root with
      | none =>
        cases chosen
        rfl
      | some r => cases chosen

end Product

namespace Workspace

variable {w : Workspace} {kind : Datum} {root : Option NodeId} {product : Product}
  {first second destination : GraphId} {grid : Option GridId}

/-- A product that is asked for as it has to be, with the root it needs, completes, also if the
destination is a factor. -/
theorem product_total (reached : w.Reachable) (asked : Product.ofRequest kind root = .ok product)
    (rooted : product.requireRoot (w.graph second) = .ok ())
    (held : destination < w.graphs.length)
    (present : ∀ id, grid = some id → id < w.grids.length) :
    ∃ event after id, run (.product kind root first second destination grid) w =
        .ok { answer := .grid id, event := some event } after ∧
      ∀ given, grid = some given → id = given := by
  by_cases aliased : destination = first ∨ destination = second
  -- A destination that is a factor is emptied first, so that there are no pairs left to place.
  · obtain ⟨after, id, ran, given, _⟩ := product_into_factor asked rooted aliased held present
    exact ⟨_, after, id, ran, given⟩
  · rw [not_or] at aliased
    obtain ⟨event, after, id, ran, _⟩ :=
      product_run reached asked rooted aliased.1 aliased.2 held present
    obtain ⟨_, ⟨chosen, _⟩ | ⟨new, _⟩, _⟩ := grids_of_product ran
    · exact ⟨event, after, id, ran, fun known given => Option.some.inj (chosen.symm.trans given)⟩
    · refine ⟨event, after, id, ran, fun known given => ?_⟩
      rw [new] at given
      cases given

/-- A request for a product is refused for its kind, or for its root, or it is met. -/
theorem product_cases (reached : w.Reachable) (kind : Datum) (root : Option NodeId)
    (first second : GraphId) (held : destination < w.graphs.length)
    (present : ∀ id, grid = some id → id < w.grids.length) :
    (Product.Unfit kind root ∧ ¬ Product.Rootless kind root (w.graph second) ∧
      ∃ failure after, run (.product kind root first second destination grid) w =
        .error failure after ∧ failure.category = .configuration ∧ w.Untouched grid after) ∨
    (¬ Product.Unfit kind root ∧ Product.Rootless kind root (w.graph second) ∧
      ∃ failure after, run (.product kind root first second destination grid) w =
        .error failure after ∧ failure.category = .graph ∧ w.Untouched grid after) ∨
    (¬ Product.Unfit kind root ∧ ¬ Product.Rootless kind root (w.graph second) ∧
      ∃ event after id, run (.product kind root first second destination grid) w =
          .ok { answer := .grid id, event := some event } after ∧
        ∀ given, grid = some given → id = given) := by
  rcases Product.ofRequest_cases kind root with
    ⟨unfit, failure, unasked, category⟩ | ⟨fit, product, asked⟩
  · obtain ⟨after, refused, untouched⟩ := product_refused (.inl unasked)
    exact .inl ⟨unfit, Product.not_rootless_of_unfit unfit, failure, after, refused, category,
      untouched⟩
  · rcases Product.requireRoot_cases asked (w.graph second) with
      ⟨rootless, failure, missing, category⟩ | ⟨rooted, checked⟩
    · obtain ⟨after, refused, untouched⟩ := product_refused (.inr ⟨product, asked, missing⟩)
      exact .inr (.inl ⟨fit, rootless, failure, after, refused, category, untouched⟩)
    · exact .inr (.inr ⟨fit, rooted, product_total reached asked checked held present⟩)

/-- A command that is refused is refused for one reason. -/
theorem refused_as_iff {command : Command} {failure : Failure} {left : Workspace}
    {category : Failure.Category} (refused : run command w = .error failure left) :
    (∃ failure after, run command w = .error failure after ∧ failure.category = category) ↔
      failure.category = category := by
  constructor
  · rintro ⟨_, _, same, fits⟩
    cases refused.symm.trans same
    exact fits
  · exact fun fits => ⟨failure, left, refused, fits⟩

/-- In every workspace that commands lead to, whatever the kind, the root, the two factors and the
destination, which may all be one graph. A product is refused as a matter of configuration exactly
if its kind is none or does not go with its root, and as a matter of the graph exactly if its root
is no node of the second factor. It is refused for no other reason, and then everything is as it
was, but for a new grid where none was given. Otherwise it completes and answers the given grid. -/
theorem product_dispatch (reached : w.Reachable) (held : destination < w.graphs.length)
    (present : ∀ id, grid = some id → id < w.grids.length) :
    ((∃ failure after, run (.product kind root first second destination grid) w =
        .error failure after ∧ failure.category = .configuration) ↔ Product.Unfit kind root) ∧
      ((∃ failure after, run (.product kind root first second destination grid) w =
        .error failure after ∧ failure.category = .graph) ↔
          Product.Rootless kind root (w.graph second)) ∧
      (∀ failure after, run (.product kind root first second destination grid) w =
        .error failure after → w.Untouched grid after) ∧
      (¬ Product.Unfit kind root → ¬ Product.Rootless kind root (w.graph second) →
        ∃ event after id, run (.product kind root first second destination grid) w =
            .ok { answer := .grid id, event := some event } after ∧
          ∀ given, grid = some given → id = given) := by
  rcases product_cases reached kind root first second held present with
    ⟨unfit, rooted, failure, left, refused, category, untouched⟩ |
      ⟨fit, rootless, failure, left, refused, category, untouched⟩ |
      ⟨fit, rooted, event, left, id, ran, given⟩
  · have other : failure.category ≠ .graph := by simp [category]
    refine ⟨iff_of_true ((refused_as_iff refused).mpr category) unfit,
      iff_of_false (mt (refused_as_iff refused).mp other) rooted, fun _ _ same => ?_,
      fun fit => absurd unfit fit⟩
    cases refused.symm.trans same
    exact untouched
  · have other : failure.category ≠ .configuration := by simp [category]
    refine ⟨iff_of_false (mt (refused_as_iff refused).mp other) fit,
      iff_of_true ((refused_as_iff refused).mpr category) rootless, fun _ _ same => ?_,
      fun _ rooted => absurd rootless rooted⟩
    cases refused.symm.trans same
    exact untouched
  · have met : ∀ failure after, run (.product kind root first second destination grid) w ≠
        .error failure after := by
      intro _ _ same
      cases ran.symm.trans same
    exact ⟨iff_of_false (fun ⟨_, _, same, _⟩ => met _ _ same) fit,
      iff_of_false (fun ⟨_, _, same, _⟩ => met _ _ same) rooted,
      fun _ _ same => absurd same (met _ _), fun _ _ => ⟨event, left, id, ran, given⟩⟩

/-- Two factors, the first of which is asked to be the destination, a grid in use and a graph for
the pairs. -/
def requested : List Command :=
  [.newGraph, .newNode 0, .newNode 0, .newNode 0, .deleteNode 0 0, .newEdge 0 1 2, .newEdge 0 1 1,
    .newGraph, .newNode 1, .newNode 1, .newEdge 1 0 1, .newGrid, .assign 0 5 6 7, .newGraph]

theorem product_dispatch_requested :
    Reachable (runAll {} requested) ∧ 0 < (runAll {} requested).graphs.length ∧
    2 < (runAll {} requested).graphs.length ∧
    (∀ id, some 0 = some id → id < (runAll {} requested).grids.length) ∧
    (∃ failure after,
      run (.product (.text "diagonal") none 0 1 0 (some 0)) (runAll {} requested) =
        .error failure after ∧ failure.category = .configuration ∧ after = runAll {} requested) ∧
    (∃ failure after,
      run (.product (.text "tensor") (some 1) 0 1 0 (some 0)) (runAll {} requested) =
        .error failure after ∧ failure.category = .configuration ∧ after = runAll {} requested) ∧
    (∃ failure after,
      run (.product (.text "rooted") (some 2) 0 1 0 (some 0)) (runAll {} requested) =
        .error failure after ∧ failure.category = .graph ∧ after = runAll {} requested) ∧
    (∃ event after,
      run (.product (.text "rooted") (some 1) 0 1 0 (some 0)) (runAll {} requested) =
        .ok { answer := .grid 0, event := some event } after ∧
      (after.graph 0).nodes = [] ∧ (after.grid 0).items = []) ∧
    ∃ event after, run (.product (.text "rooted") (some 1) 0 1 2 (some 0)) (runAll {} requested) =
      .ok { answer := .grid 0, event := some event } after ∧
      (after.grid 0).items = [((1, 0), 0), ((1, 1), 1), ((2, 0), 2), ((2, 1), 3)] ∧
      (after.graph 2).edges = [⟨0, 0, 1⟩, ⟨1, 1, 3⟩, ⟨2, 1, 1⟩, ⟨3, 2, 3⟩] := by
  have reached : Reachable (runAll {} requested) :=
    reachable_runAll .empty (by simp [requested, Command.Proper])
  have held : 0 < (runAll {} requested).graphs.length := by decide +kernel
  have third : 2 < (runAll {} requested).graphs.length := by decide +kernel
  have present : ∀ id, some 0 = some id → id < (runAll {} requested).grids.length := by
    decide +kernel
  have nodes : ((runAll {} requested).graph 1).nodes = [0, 1] := by decide +kernel
  have unnamed : Product.Unfit (.text "diagonal") none := by
    refine .inl fun name listed same => ?_
    rw [← Datum.text_inj.mp same] at listed
    exact absurd listed (by decide)
  have unrooted : Product.Unfit (.text "tensor") (some 1) :=
    .inr (.inr ⟨"tensor", by decide, by decide, rfl, by decide⟩)
  have rootless : Product.Rootless (.text "rooted") (some 2) ((runAll {} requested).graph 1) :=
    ⟨2, rfl, rfl, by simp [nodes]⟩
  have fit : ¬ Product.Unfit (.text "rooted") (some 1) :=
    mt (Product.unfit_iff_of_named .rooted).mp (by simp)
  have rooted : ¬ Product.Rootless (.text "rooted") (some 1) ((runAll {} requested).graph 1) := by
    rintro ⟨_, _, same, foreign⟩
    cases same
    exact foreign (by simp [nodes])
  obtain ⟨unknown, _, unknown_left, _⟩ := product_dispatch reached held present
  obtain ⟨excess, _, excess_left, _⟩ := product_dispatch reached held present
  obtain ⟨_, foreign, foreign_left, _⟩ := product_dispatch reached held present
  obtain ⟨_, _, _, total⟩ := product_dispatch reached held present
  obtain ⟨_, _, unknown_ran, unknown_category⟩ := unknown.mpr unnamed
  obtain ⟨_, _, excess_ran, excess_category⟩ := excess.mpr unrooted
  obtain ⟨_, _, foreign_ran, foreign_category⟩ := foreign.mpr rootless
  obtain ⟨_, _, _, placing⟩ := product_dispatch reached third present
  obtain ⟨event, emptied, _, ran, given⟩ := total fit rooted
  obtain rfl := given 0 rfl
  obtain rfl : step _ (.product (.text "rooted") (some 1) 0 1 0 (some 0)) = emptied :=
    after_of_ok ran
  obtain ⟨event', placed, _, built, given⟩ := placing fit rooted
  obtain rfl := given 0 rfl
  obtain rfl : step _ (.product (.text "rooted") (some 1) 0 1 2 (some 0)) = placed :=
    after_of_ok built
  exact ⟨reached, held, third, present,
    ⟨_, _, unknown_ran, unknown_category, (unknown_left _ _ unknown_ran).same 0 rfl⟩,
    ⟨_, _, excess_ran, excess_category, (excess_left _ _ excess_ran).same 0 rfl⟩,
    ⟨_, _, foreign_ran, foreign_category, (foreign_left _ _ foreign_ran).same 0 rfl⟩,
    ⟨event, _, ran, by decide +kernel, by decide +kernel⟩,
    event', _, built, by decide +kernel, by decide +kernel⟩

end Workspace

end Multigraph
