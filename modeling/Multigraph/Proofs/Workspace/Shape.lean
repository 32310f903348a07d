import Multigraph.Proofs.Graph.Shape
import Multigraph.Proofs.Operation.DisjointUnion
import Multigraph.Proofs.Operation.Merging
import Multigraph.Proofs.Product.Basic

/-!
Operations know handles by their order only. Two calls of an operation, in two workspaces or in one,
are the same call when their graphs have the same shapes and their correspondences and roots the
same places (`SameCall`); the handles themselves, the gaps that deleted nodes and edges have left
among them, and the counters may be any. Then they have the same outcome: both are refused for a
reason of one class, or both succeed, and what they leave has the same shapes, layouts and cells
(`shapes_determine_outcomes`). The graphs of the two calls are alike, so the operation of the one
simulates that of the other from beginning to end.
-/
namespace Multigraph

open Multigraph.Action

namespace Workspace

/-! ## Calls and outcomes by place -/

/-- The layout of a correspondence that is bound to one graph, for values in another. -/
def layout? (w : Workspace) (m : MapId) (domain codomain : GraphId) : Option Layout :=
  if w.isBoundTo m domain then
    some ((w.map m).values.layout (w.graph domain) (w.graph codomain))
  else none

/-- Two distinct graphs of one workspace, and two of another with the same shapes. -/
structure SameOperands (w v : Workspace) (first second first' second' : GraphId) : Prop where
  apart : first ≠ second
  apart' : first' ≠ second'
  held : first < w.graphs.length
  held' : first' < v.graphs.length
  first_shape : (w.graph first).shape = (v.graph first').shape
  second_shape : (w.graph second).shape = (v.graph second').shape

/-- A graph and perhaps a grid that a product may be built into: the graph is no factor. -/
structure Receives (w : Workspace) (first second destination : GraphId) (grid : Option GridId) :
    Prop where
  apart : destination ≠ first
  away : destination ≠ second
  held : destination < w.graphs.length
  present : ∀ id, grid = some id → id < w.grids.length

/-- Two calls of one operation that agree in everything but the handles. -/
inductive SameCall (w v : Workspace) : Command → Command → Prop where
  | complement {g g' : GraphId} (policy : ComplementPolicy) (held : g < w.graphs.length)
      (held' : g' < v.graphs.length) (shapes : (w.graph g).shape = (v.graph g').shape) :
      SameCall w v (.complement g policy) (.complement g' policy)
  | removeParallel {g g' : GraphId} (directed : Bool) (held : g < w.graphs.length)
      (held' : g' < v.graphs.length) (shapes : (w.graph g).shape = (v.graph g').shape) :
      SameCall w v (.removeParallel g directed) (.removeParallel g' directed)
  | disjointUnion {first second first' second' : GraphId}
      (operands : SameOperands w v first second first' second') :
      SameCall w v (.disjointUnion first second) (.disjointUnion first' second')
  | union {first second first' second' : GraphId} {map map' : Option MapId}
      (policy : UnionPolicy) (operands : SameOperands w v first second first' second')
      (layouts : map.map (w.layout? · second first) = map'.map (v.layout? · second' first')) :
      SameCall w v (.union first second map policy) (.union first' second' map' policy)
  | join {first second first' second' : GraphId} {m m' : MapId}
      (operands : SameOperands w v first second first' second')
      (layouts : w.layout? m second first = v.layout? m' second' first') :
      SameCall w v (.join first second m) (.join first' second' m')
  | intersection {first second first' second' : GraphId} {m m' : MapId}
      (operands : SameOperands w v first second first' second')
      (layouts : w.layout? m first second = v.layout? m' first' second') :
      SameCall w v (.intersection first second m) (.intersection first' second' m')
  | product {root root' : Option NodeId} {first second destination first' second' destination' :
      GraphId} {grid grid' : Option GridId} (kind : Datum)
      (receives : w.Receives first second destination grid)
      (receives' : v.Receives first' second' destination' grid')
      (first_shape : (w.graph first).shape = (v.graph first').shape)
      (second_shape : (w.graph second).shape = (v.graph second').shape)
      (roots : root.map (w.graph second).position = root'.map (v.graph second').position) :
      SameCall w v (.product kind root first second destination grid)
        (.product kind root' first' second' destination' grid')

/-- What a call leaves, by places: the shapes of its graphs, the layout of the correspondence that
it has filled or read, the cells of the grid that it has filled, and what it reports. -/
structure Outcome where
  shapes : List Shape := []
  layout : Option Layout := none
  cells : List ((Nat × Nat) × Nat) := []
  count : Option Nat := none
  event : Option Event := none
  deriving DecidableEq

/-- What is left of two graphs that have been merged under a correspondence. -/
def merged (after : Workspace) (first second : GraphId) (m : MapId) (event : Option Event) :
    Outcome where
  shapes := [(after.graph first).shape, (after.graph second).shape]
  layout := after.layout? m second first
  event := event

/-- What a successful call has left. -/
def picture (after : Workspace) (command : Command) (reply : Reply) : Outcome :=
  match command, reply.answer with
  | .complement g _, _ => { shapes := [(after.graph g).shape], event := reply.event }
  | .removeParallel g _, .count n => { shapes := [(after.graph g).shape], count := some n }
  | .disjointUnion first second, .map m | .union first second _ _, .map m
  | .join first second _, .map m => after.merged first second m reply.event
  | .intersection first second m, _ =>
    { shapes := [(after.graph first).shape, (after.graph second).shape]
      layout := after.layout? m first second
      event := reply.event }
  | .product _ _ first second destination _, .grid id =>
    { shapes := [(after.graph first).shape, (after.graph second).shape,
        (after.graph destination).shape]
      cells := (after.grid id).cells (after.graph first) (after.graph second)
        (after.graph destination)
      event := reply.event }
  | _, _ => {}

/-- The outcome of a call: what it leaves, or the class of its failure. -/
def outcome (w : Workspace) (command : Command) : Except Failure.Category Outcome :=
  match run command w with
  | .ok reply after => .ok (after.picture command reply)
  | .error failure _ => .error failure.category

variable {w v : Workspace} {command : Command} {first second first' second' : GraphId}

theorem outcome_of_ok {reply : Reply} {after : Workspace}
    (ran : run command w = .ok reply after) :
    w.outcome command = .ok (after.picture command reply) := by
  rw [outcome, ran]

theorem outcome_of_error {failure : Failure} {after : Workspace}
    (failed : run command w = .error failure after) :
    w.outcome command = .error failure.category := by
  rw [outcome, failed]

theorem graph_setGraph_self {g : GraphId} (held : g < w.graphs.length) (h : Graph) :
    (w.setGraph g h).graph g = h := (setGraph_replaced held h).graph_eq

/-! ## One graph -/

theorem complement_outcome (reached : w.Reachable) (reached' : v.Reachable) {g g' : GraphId}
    (policy : ComplementPolicy) (held : g < w.graphs.length) (held' : g' < v.graphs.length)
    (shapes : (w.graph g).shape = (v.graph g').shape) :
    w.outcome (.complement g policy) = v.outcome (.complement g' policy) := by
  obtain ⟨p, alike, _⟩ :=
    Graph.exists_pairing (reached.wellFormed g) (reached'.wellFormed g') shapes
  have here := Graph.complement_run policy (reached.wellFormed g)
  obtain ⟨_, left', there, rfl, same⟩ := Graph.complement_simulates policy _ _ _ _ alike here
  have ran : run (.complement g policy) w = .ok { answer := .done, event := _ } (w.setGraph g _) :=
    bind_of_ok (onGraph_run here)
  have ran' : run (.complement g' policy) v =
      .ok { answer := .done, event := _ } (v.setGraph g' left') := bind_of_ok (onGraph_run there)
  rw [outcome_of_ok ran, outcome_of_ok ran']
  simp only [picture, graph_setGraph_self held, graph_setGraph_self held', same.shape_eq]

theorem removeParallel_outcome (reached : w.Reachable) (reached' : v.Reachable) {g g' : GraphId}
    (directed : Bool) (held : g < w.graphs.length) (held' : g' < v.graphs.length)
    (shapes : (w.graph g).shape = (v.graph g').shape) :
    w.outcome (.removeParallel g directed) = v.outcome (.removeParallel g' directed) := by
  obtain ⟨p, alike, _⟩ :=
    Graph.exists_pairing (reached.wellFormed g) (reached'.wellFormed g') shapes
  have here := Graph.removeParallel_run (reached.wellFormed g).ids_nodup directed
  obtain ⟨_, left', there, rfl, same⟩ :=
    Graph.removeParallel_simulates directed _ _ _ _ alike here
  have ran : run (.removeParallel g directed) w = .ok { answer := .count _ } (w.setGraph g _) :=
    bind_of_ok (onGraph_run here)
  have ran' : run (.removeParallel g' directed) v =
      .ok { answer := .count _ } (v.setGraph g' left') := bind_of_ok (onGraph_run there)
  rw [outcome_of_ok ran, outcome_of_ok ran']
  simp only [picture, graph_setGraph_self held, graph_setGraph_self held', same.shape_eq]

/-! ## Two graphs -/

/-- Whether a correspondence fits can be told by places. -/
theorem misfits_iff_of_layout {m m' : MapId} {domain codomain domain' codomain' : GraphId}
    (layouts : w.layout? m domain codomain = v.layout? m' domain' codomain')
    (shapes : (w.graph codomain).shape = (v.graph codomain').shape) :
    w.Misfits m domain codomain ↔ v.Misfits m' domain' codomain' := by
  have counts : (w.graph codomain).nodes.length = (v.graph codomain').nodes.length :=
    congrArg Shape.nodeCount shapes
  rw [← not_iff_not, not_misfits_iff, not_misfits_iff, Assignment.pointsInto_iff_layout,
    Assignment.pointsInto_iff_layout, counts]
  unfold layout? at layouts
  cases here : w.isBoundTo m domain <;> cases there : v.isBoundTo m' domain' <;>
    simp_all

/-- Correspondences of one layout that fit are alike. -/
theorem alike_of_layout {p q : Pairing} {m m' : MapId}
    {domain codomain domain' codomain' : GraphId}
    (layouts : w.layout? m domain codomain = v.layout? m' domain' codomain')
    (shapes : (w.graph codomain).shape = (v.graph codomain').shape)
    (domains : p.Graphs (w.graph domain) (v.graph domain'))
    (paired : ∀ u x, u ∈ (w.graph codomain).nodes →
      (w.graph codomain).position u = (v.graph codomain').position x → q.nodes u x)
    (fits : ¬ w.Misfits m domain codomain) :
    (w.map m).values.Alike p q (w.graph domain) (v.map m').values := by
  obtain ⟨bound, valid⟩ := not_misfits_iff.mp fits
  obtain ⟨bound', _⟩ := not_misfits_iff.mp
    (fun misfit => fits ((misfits_iff_of_layout layouts shapes).mpr misfit))
  rw [layout?, layout?, if_pos bound, if_pos bound', Option.some.injEq] at layouts
  exact Assignment.alike_of_layout domains paired (congrArg Shape.nodeCount shapes) valid layouts

/-- What is there when images have been recorded in a correspondence for the second graph. -/
theorem recorded_reads {m : MapId} {g : Graph} {images : Table NodeId NodeId}
    (apart : first ≠ second) (held : first < w.graphs.length)
    (bound : w.isBoundTo m second = true) :
    (w.recorded first g m images).graph first = g ∧
    (w.recorded first g m images).graph second = w.graph second ∧
    (w.recorded first g m images).layout? m second first =
      some (((w.map m).values.recordImages images).layout (w.graph second) g) := by
  have changed : (w.recorded first g m images).graph first = g :=
    graph_recorded_self held g m images
  have kept : (w.recorded first g m images).graph second = w.graph second :=
    (graph_recorded w first second g m images).trans (if_neg fun both => apart both.1)
  have there : (w.recorded first g m images).map m =
      { (w.map m) with values := (w.map m).values.recordImages images } :=
    map_setMap (present_of_isBoundTo bound) _
  have still : (w.recorded first g m images).isBoundTo m second = true := by
    rw [isBoundTo, there]
    exact bound
  refine ⟨changed, kept, ?_⟩
  rw [layout?, if_pos still, changed, kept, there]

/-- Merges that have left alike graphs and matching images leave the same picture. -/
theorem merged_eq {p q : Pairing} {m m' : MapId} {g g' : Graph}
    {images images' : Table NodeId NodeId} (apart : first ≠ second) (apart' : first' ≠ second')
    (held : first < w.graphs.length) (held' : first' < v.graphs.length)
    (bound : w.isBoundTo m second = true) (bound' : v.isBoundTo m' second' = true)
    (seconds : q.Graphs (w.graph second) (v.graph second'))
    (presets : (w.map m).values.Alike q p (w.graph second) (v.map m').values)
    (graphs : p.Graphs g g') (tables : images.Matches q.nodes p.nodes images')
    (event : Option Event) :
    (w.recorded first g m images).merged first second m event =
      (v.recorded first' g' m' images').merged first' second' m' event := by
  obtain ⟨changed, kept, layout⟩ := recorded_reads apart held bound
  obtain ⟨changed', kept', layout'⟩ := recorded_reads apart' held' bound'
  rw [merged, merged, changed, kept, layout, changed', kept', layout', graphs.shape_eq,
    seconds.shape_eq, Pairing.layout_eq seconds graphs (presets.recordImages tables)]

theorem disjointUnion_outcome (reached : w.Reachable) (reached' : v.Reachable)
    (operands : SameOperands w v first second first' second') :
    w.outcome (.disjointUnion first second) = v.outcome (.disjointUnion first' second') := by
  obtain ⟨p, firsts, _⟩ := Graph.exists_pairing (reached.wellFormed first)
    (reached'.wellFormed first') operands.first_shape
  obtain ⟨q, seconds, _⟩ := Graph.exists_pairing (reached.wellFormed second)
    (reached'.wellFormed second') operands.second_shape
  have here := Graph.disjointUnion_run (g := w.graph first) (reached.wellFormed second)
  obtain ⟨images', g', there, tables, graphs⟩ :=
    Graph.disjointUnion_simulates seconds _ _ _ _ firsts here
  rw [outcome_of_ok (disjointUnion_completes here), outcome_of_ok (disjointUnion_completes there)]
  have bound : ∀ (u : Workspace) (g : GraphId),
      (u.withMap g).isBoundTo u.maps.length g = true := fun u g => by
    rw [isBoundTo, map_withMap]
    exact decide_eq_true rfl
  have presets : ((w.withMap second).map w.maps.length).values.Alike q p (w.graph second)
      ((v.withMap second').map v.maps.length).values := by
    intro u x _ _
    rw [map_withMap, map_withMap]
    exact .none
  exact congrArg Except.ok (merged_eq (w := w.withMap second) (v := v.withMap second')
    operands.apart operands.apart' operands.held operands.held' (bound w second) (bound v second')
    seconds presets graphs tables none)

/-- The identifications that two unions start from are alike when their correspondences have the
same layout and fit. -/
theorem presetOf_alike {p q : Pairing} {map map' : Option MapId}
    (layouts : map.map (w.layout? · second first) = map'.map (v.layout? · second' first'))
    (shapes : (w.graph first).shape = (v.graph first').shape)
    (seconds : q.Graphs (w.graph second) (v.graph second'))
    (paired : ∀ u x, u ∈ (w.graph first).nodes →
      (w.graph first).position u = (v.graph first').position x → p.nodes u x)
    (fits : ∀ m, map = some m → ¬ w.Misfits m second first) :
    (w.presetOf map).Alike q p (w.graph second) (v.presetOf map') := by
  cases map with
  | none =>
    cases map' with
    | none => exact fun _ _ _ _ => .none
    | some m' => cases layouts
  | some m =>
    cases map' with
    | none => cases layouts
    | some m' =>
      exact alike_of_layout (Option.some.inj layouts) shapes seconds paired (fits m rfl)

theorem union_outcome_of_fits (reached : w.Reachable) (reached' : v.Reachable)
    {map map' : Option MapId} (policy : UnionPolicy)
    (operands : SameOperands w v first second first' second')
    (layouts : map.map (w.layout? · second first) = map'.map (v.layout? · second' first'))
    (fits : ∀ m, map = some m → ¬ w.Misfits m second first)
    (fits' : ∀ m, map' = some m → ¬ v.Misfits m second' first') :
    w.outcome (.union first second map policy) =
      v.outcome (.union first' second' map' policy) := by
  obtain ⟨p, firsts, paired⟩ := Graph.exists_pairing (reached.wellFormed first)
    (reached'.wellFormed first') operands.first_shape
  obtain ⟨q, seconds, _⟩ := Graph.exists_pairing (reached.wellFormed second)
    (reached'.wellFormed second') operands.second_shape
  obtain ⟨id, u, mapped, same, _, bound, preset⟩ := unionMap_run (w := w)
    fun m (given : map = some m) => (not_misfits_iff.mp (fits m given)).1
  obtain ⟨id', u', mapped', same', _, bound', preset'⟩ := unionMap_run (w := v)
    fun m (given : map' = some m) => (not_misfits_iff.mp (fits' m given)).1
  have presets := presetOf_alike layouts operands.first_shape seconds paired fits
  obtain ⟨images, event, g, here⟩ : ∃ images event g, Graph.union (w.graph second)
      (w.presetOf map) policy (w.graph first) = .ok (images, event) g :=
    ⟨_, _, _, Graph.union_run (reached.wellFormed first) (reached.wellFormed second)
      (presetOf_pointsInto fun m given => (not_misfits_iff.mp (fits m given)).2) policy⟩
  obtain ⟨⟨images', event'⟩, g', there, ⟨tables, reports⟩, graphs⟩ :=
    Graph.union_simulates seconds presets policy _ _ _ _ firsts here
  obtain rfl : event = event' := reports
  rw [← preset, ← graph_congr same first, ← graph_congr same second] at here
  rw [← preset', ← graph_congr same' first', ← graph_congr same' second'] at there
  rw [outcome_of_ok (union_recorded mapped here), outcome_of_ok (union_recorded mapped' there)]
  rw [← preset, ← preset', ← graph_congr same second] at presets
  rw [← graph_congr same second, ← graph_congr same' second'] at seconds
  exact congrArg Except.ok (merged_eq operands.apart operands.apart' (same ▸ operands.held)
    (same' ▸ operands.held') bound bound' seconds presets graphs tables _)

/-- Calls that are both refused on account of a correspondence have the same outcome. -/
theorem outcome_of_misfits {command' : Command}
    (refused : ∃ failure, run command w = .error failure w ∧ failure.category = .correspondence)
    (refused' : ∃ failure, run command' v = .error failure v ∧
      failure.category = .correspondence) : w.outcome command = v.outcome command' := by
  obtain ⟨failure, failed, category⟩ := refused
  obtain ⟨failure', failed', category'⟩ := refused'
  rw [outcome_of_error failed, outcome_of_error failed', category, category']

theorem union_outcome (reached : w.Reachable) (reached' : v.Reachable) {map map' : Option MapId}
    (policy : UnionPolicy) (operands : SameOperands w v first second first' second')
    (layouts : map.map (w.layout? · second first) = map'.map (v.layout? · second' first')) :
    w.outcome (.union first second map policy) =
      v.outcome (.union first' second' map' policy) := by
  cases map with
  | none =>
    cases map' with
    | some m' => cases layouts
    | none =>
      refine union_outcome_of_fits reached reached' policy operands layouts ?_ ?_
      · intro m given
        cases given
      · intro m given
        cases given
  | some m =>
    cases map' with
    | none => cases layouts
    | some m' =>
      have same := misfits_iff_of_layout (Option.some.inj layouts) operands.first_shape
      by_cases misfit : w.Misfits m second first
      · exact outcome_of_misfits (union_misfit misfit policy)
          (union_misfit (same.mp misfit) policy)
      · refine union_outcome_of_fits reached reached' policy operands layouts ?_ ?_
        · rintro _ ⟨⟩
          exact misfit
        · rintro _ ⟨⟩
          exact fun other => misfit (same.mpr other)

theorem join_outcome (reached : w.Reachable) (reached' : v.Reachable) {m m' : MapId}
    (operands : SameOperands w v first second first' second')
    (layouts : w.layout? m second first = v.layout? m' second' first') :
    w.outcome (.join first second m) = v.outcome (.join first' second' m') := by
  have same := misfits_iff_of_layout layouts operands.first_shape
  by_cases misfit : w.Misfits m second first
  · exact outcome_of_misfits (join_misfit misfit) (join_misfit (same.mp misfit))
  obtain ⟨p, firsts, paired⟩ := Graph.exists_pairing (reached.wellFormed first)
    (reached'.wellFormed first') operands.first_shape
  obtain ⟨q, seconds, _⟩ := Graph.exists_pairing (reached.wellFormed second)
    (reached'.wellFormed second') operands.second_shape
  have presets := alike_of_layout layouts operands.first_shape seconds paired misfit
  obtain ⟨bound, valid⟩ := not_misfits_iff.mp misfit
  obtain ⟨bound', _⟩ := not_misfits_iff.mp fun other => misfit (same.mpr other)
  obtain ⟨images, event, g, here⟩ : ∃ images event g, Graph.join (.other (w.graph second))
      (w.map m).values (w.graph first) = .ok (images, event) g := by
    obtain ⟨images, _, _, ran⟩ :=
      Graph.join_run (reached.wellFormed first) (reached.wellFormed second) valid
    exact ⟨images, _, _, ran⟩
  obtain ⟨⟨images', event'⟩, g', there, ⟨tables, reports⟩, graphs⟩ :=
    Graph.join_simulates seconds presets _ _ _ _ firsts here
  obtain rfl : event = event' := reports
  rw [outcome_of_ok (join_command operands.apart bound here),
    outcome_of_ok (join_command operands.apart' bound' there)]
  exact congrArg Except.ok (merged_eq operands.apart operands.apart' operands.held operands.held'
    bound bound' seconds presets graphs tables _)

theorem intersection_outcome (reached : w.Reachable) (reached' : v.Reachable) {m m' : MapId}
    (operands : SameOperands w v first second first' second')
    (layouts : w.layout? m first second = v.layout? m' first' second') :
    w.outcome (.intersection first second m) = v.outcome (.intersection first' second' m') := by
  have same := misfits_iff_of_layout layouts operands.second_shape
  by_cases misfit : w.Misfits m first second
  · exact outcome_of_misfits (intersection_misfit misfit) (intersection_misfit (same.mp misfit))
  obtain ⟨p, firsts, _⟩ := Graph.exists_pairing (reached.wellFormed first)
    (reached'.wellFormed first') operands.first_shape
  obtain ⟨q, seconds, paired⟩ := Graph.exists_pairing (reached.wellFormed second)
    (reached'.wellFormed second') operands.second_shape
  have presets := alike_of_layout layouts operands.second_shape firsts paired misfit
  obtain ⟨bound, valid⟩ := not_misfits_iff.mp misfit
  obtain ⟨bound', _⟩ := not_misfits_iff.mp fun other => misfit (same.mpr other)
  obtain ⟨event, g, here, inside⟩ : ∃ event g, Graph.intersection (.other (w.graph second))
      (w.map m).values (w.graph first) = .ok event g ∧
        ∀ node ∈ g.nodes, node ∈ (w.graph first).nodes :=
    ⟨_, _, Graph.intersection_run (reached.wellFormed first) valid,
      fun _ listed => (List.mem_filter.mp listed).1⟩
  obtain ⟨g', there, graphs⟩ := Graph.intersection_alike firsts seconds presets here
  have left : (w.map m).values.Alike p q g (v.map m').values := fun u x held node =>
    presets u x (inside u held) node
  rw [outcome_of_ok (intersection_command operands.apart bound here),
    outcome_of_ok (intersection_command operands.apart' bound' there)]
  have changed := graph_setGraph_self operands.held g
  have changed' := graph_setGraph_self operands.held' g'
  have kept : (w.setGraph first g).graph second = w.graph second :=
    (setGraph_replaced operands.held g).others second operands.apart.symm
  have kept' : (v.setGraph first' g').graph second' = v.graph second' :=
    (setGraph_replaced operands.held' g').others second' operands.apart'.symm
  have layout : (w.setGraph first g).layout? m first second =
      (v.setGraph first' g').layout? m' first' second' := by
    have here : (w.setGraph first g).isBoundTo m first = true := bound
    have there : (v.setGraph first' g').isBoundTo m' first' = true := bound'
    rw [layout?, layout?, if_pos here, if_pos there, changed, changed', kept, kept']
    exact congrArg some (Pairing.layout_eq graphs seconds left)
  simp only [picture, layout, changed, changed', kept, kept', graphs.shape_eq, seconds.shape_eq]

/-! ## Products -/

/-- Products of one kind, with roots at the same place if they have any. -/
inductive SameProduct (g h : Graph) : Product → Product → Prop where
  | rootless {product : Product} (rootless : ∀ root, product ≠ .rooted root) :
      SameProduct g h product product
  | rooted {root root' : NodeId} (places : g.position root = h.position root') :
      SameProduct g h (.rooted root) (.rooted root')

/-- Requests with roots at the same place are refused alike or ask for the same product. -/
theorem ofRequest_places (kind : Datum) {root root' : Option NodeId} {g h : Graph}
    (roots : root.map g.position = root'.map h.position) :
    (∃ failure failure', Product.ofRequest kind root = .error failure ∧
      Product.ofRequest kind root' = .error failure' ∧ failure.category = failure'.category) ∨
    ∃ product product', Product.ofRequest kind root = .ok product ∧
      Product.ofRequest kind root' = .ok product' ∧ SameProduct g h product product' := by
  unfold Product.ofRequest
  cases ProductKind.ofDatum? kind with
  | none => exact .inl ⟨_, _, rfl, rfl, rfl⟩
  | some named =>
    cases root with
    | none =>
      cases root' with
      | some r' => cases roots
      | none =>
        cases named with
        | rooted => exact .inl ⟨_, _, rfl, rfl, rfl⟩
        | _ => exact .inr ⟨_, _, rfl, rfl, .rootless fun r same => by cases same⟩
    | some r =>
      cases root' with
      | none => cases roots
      | some r' =>
        cases named with
        | rooted => exact .inr ⟨_, _, rfl, rfl, .rooted (Option.some.inj roots)⟩
        | _ => exact .inl ⟨_, _, rfl, rfl, rfl⟩

/-- Roots at the same place are refused alike or are related. -/
theorem requireRoot_places {q : Pairing} {g h : Graph} {product product' : Product}
    (same : SameProduct g h product product') (counts : g.nodes.length = h.nodes.length)
    (paired : ∀ u x, u ∈ g.nodes → g.position u = h.position x → q.nodes u x) :
    (∃ failure failure', product.requireRoot g = .error failure ∧
      product'.requireRoot h = .error failure' ∧ failure.category = failure'.category) ∨
    product.requireRoot g = .ok () ∧ product.Alike q.nodes product' := by
  cases same with
  | rootless rootless =>
    refine .inr ⟨?_, .rootless rootless⟩
    cases product with
    | rooted root => exact absurd rfl (rootless root)
    | _ => rfl
  | @rooted root root' places =>
    have alike := Graph.mem_iff_of_position counts places
    by_cases held : root ∈ g.nodes
    · exact .inr ⟨if_pos held, .rooted (paired root root' held places)⟩
    · exact .inl ⟨_, _, if_neg held, if_neg fun other => held (alike.mpr other), rfl⟩

variable {kind : Datum} {root root' : Option NodeId} {product product' : Product}
  {destination destination' : GraphId} {grid grid' : Option GridId}

/-- A product of an unfit kind or root is refused before anything is built. -/
theorem outcome_of_unfit {failure : Failure}
    (unfit : Product.ofRequest kind root = .error failure ∨
      ∃ product, Product.ofRequest kind root = .ok product ∧
        product.requireRoot (w.graph second) = .error failure) :
    w.outcome (.product kind root first second destination grid) = .error failure.category := by
  obtain ⟨after, refused, _⟩ := product_refused unfit
  exact outcome_of_error refused

/-- Products of one kind that both have the roots they need have the same outcome. -/
theorem product_outcome_of_fits (reached : w.Reachable) (reached' : v.Reachable)
    (receives : w.Receives first second destination grid)
    (receives' : v.Receives first' second' destination' grid') {p q : Pairing}
    (firsts : p.Graphs (w.graph first) (v.graph first'))
    (seconds : q.Graphs (w.graph second) (v.graph second'))
    (asked : Product.ofRequest kind root = .ok product)
    (asked' : Product.ofRequest kind root' = .ok product')
    (rooted : product.requireRoot (w.graph second) = .ok ())
    (products : product.Alike q.nodes product') :
    w.outcome (.product kind root first second destination grid) =
      v.outcome (.product kind root' first' second' destination' grid') := by
  obtain ⟨build, start⟩ : ∃ build : Build Unit, build =
      { graph := w.graph destination, grid := (grid.map w.grid).getD {}, memory := () } := ⟨_, rfl⟩
  obtain ⟨build', start'⟩ : ∃ build : Build Unit, build =
      { graph := v.graph destination', grid := (grid'.map v.grid).getD {}, memory := () } := ⟨_, rfl⟩
  obtain ⟨r, emptied⟩ : ∃ r : Pairing, r.Graphs build.graph.cleared build'.graph.cleared := by
    obtain ⟨r, emptied, _⟩ := Graph.exists_pairing
      ((Graph.Change.clear _).wellFormed (reached.wellFormed destination))
      ((Graph.Change.clear _).wellFormed (reached'.wellFormed destination')) rfl
    exact ⟨r, start ▸ start' ▸ emptied⟩
  obtain ⟨event, left, here⟩ : ∃ event left, Product.request kind root (.other (w.graph first))
      (.other (w.graph second)) build = .ok event left := by
    obtain ⟨event, ran⟩ := Product.request_run asked rooted (reached.wellFormed first)
      (reached.wellFormed second) build
    exact ⟨event, _, ran⟩
  obtain ⟨left', there, graphs, grids⟩ :=
    Product.request_alike asked asked' products firsts seconds emptied here
  rw [start] at here
  rw [start'] at there
  rw [← operand_other receives.apart, ← operand_other receives.away] at here
  rw [← operand_other receives'.apart, ← operand_other receives'.away] at there
  obtain ⟨after, id, ran, _, built, filled, others⟩ :=
    product_completes receives.held receives.present here
  obtain ⟨after', id', ran', _, built', filled', others'⟩ :=
    product_completes receives'.held receives'.present there
  rw [outcome_of_ok ran, outcome_of_ok ran']
  simp only [picture, built, filled, built', filled', others first receives.apart.symm,
    others second receives.away.symm, others' first' receives'.apart.symm,
    others' second' receives'.away.symm, firsts.shape_eq, seconds.shape_eq, graphs.shape_eq,
    Pairing.cells_eq firsts seconds graphs grids]

theorem product_outcome (reached : w.Reachable) (reached' : v.Reachable)
    (receives : w.Receives first second destination grid)
    (receives' : v.Receives first' second' destination' grid')
    (first_shape : (w.graph first).shape = (v.graph first').shape)
    (second_shape : (w.graph second).shape = (v.graph second').shape)
    (roots : root.map (w.graph second).position = root'.map (v.graph second').position) :
    w.outcome (.product kind root first second destination grid) =
      v.outcome (.product kind root' first' second' destination' grid') := by
  obtain ⟨p, firsts, _⟩ := Graph.exists_pairing (reached.wellFormed first)
    (reached'.wellFormed first') first_shape
  obtain ⟨q, seconds, paired⟩ := Graph.exists_pairing (reached.wellFormed second)
    (reached'.wellFormed second') second_shape
  rcases ofRequest_places kind roots with
    ⟨failure, failure', refused, refused', category⟩ | ⟨product, product', asked, asked', same⟩
  · rw [outcome_of_unfit (.inl refused), outcome_of_unfit (.inl refused'), category]
  rcases requireRoot_places same (congrArg Shape.nodeCount second_shape) paired with
    ⟨failure, failure', refused, refused', category⟩ | ⟨rooted, products⟩
  · rw [outcome_of_unfit (.inr ⟨product, asked, refused⟩),
      outcome_of_unfit (.inr ⟨product', asked', refused'⟩), category]
  · exact product_outcome_of_fits reached reached' receives receives' firsts seconds asked asked'
      rooted products

/-! ## All operations -/

/-- In workspaces that commands lead to, two calls of a complement, a removal of parallel edges, a
disjoint union, a union, a join, an intersection or a product of any kind on distinct graphs have
the same outcome if their graphs have the same shapes and their correspondences and roots the same
places, whatever the handles, the gaps among them and the counters are. -/
theorem shapes_determine_outcomes (reached : w.Reachable) (reached' : v.Reachable)
    {command' : Command} (same : SameCall w v command command') :
    w.outcome command = v.outcome command' := by
  cases same with
  | complement policy held held' shapes =>
    exact complement_outcome reached reached' policy held held' shapes
  | removeParallel directed held held' shapes =>
    exact removeParallel_outcome reached reached' directed held held' shapes
  | disjointUnion operands => exact disjointUnion_outcome reached reached' operands
  | union policy operands layouts => exact union_outcome reached reached' policy operands layouts
  | join operands layouts => exact join_outcome reached reached' operands layouts
  | intersection operands layouts =>
    exact intersection_outcome reached reached' operands layouts
  | product kind receives receives' first_shape second_shape roots =>
    exact product_outcome reached reached' receives receives' first_shape second_shape roots

/-- Two graphs without gaps, and a correspondence that identifies a node of the second. -/
def dense : List Command :=
  [.newGraph, .newNode 0, .newNode 0, .newEdge 0 0 1, .newEdge 0 1 1, .newGraph, .newNode 1,
    .newNode 1, .newEdge 1 1 0, .newMap (some 1), .write 0 1 (some (.int 0))]

/-- Graphs of the same shapes that nodes and edges have been deleted from, the other way round, and
a correspondence of the same layout that has been written for a node that is gone. -/
def gapped : List Command :=
  [.newGraph, .newNode 0, .newNode 0, .newNode 0, .newEdge 0 0 2, .newEdge 0 2 0, .deleteEdge 0 0,
    .newMap none, .newMap (some 0), .write 1 1 (some (.int 7)), .deleteNode 0 1, .newGraph,
    .newNode 1, .newNode 1, .newNode 1, .newNode 1, .deleteNode 1 0, .deleteNode 1 2,
    .newEdge 1 1 1, .newEdge 1 1 3, .deleteEdge 1 0, .newEdge 1 3 3, .write 1 2 (some (.int 1))]

theorem shapes_determine_outcomes_gapped :
    Reachable (runAll {} dense) ∧ Reachable (runAll {} gapped) ∧
    SameCall (runAll {} dense) (runAll {} gapped) (.union 0 1 (some 0) {})
      (.union 1 0 (some 1) {}) ∧
    (runAll {} gapped).outcome (.union 1 0 (some 1) {}) =
      .ok { shapes := [⟨3, [(0, 1), (1, 1), (0, 2)]⟩, ⟨2, [(1, 0)]⟩]
            layout := some [some 2, some 0]
            event := some (.union 1 0 3 3) } := by
  have reached : Reachable (runAll {} dense) :=
    reachable_runAll .empty (by simp [dense, Command.Proper])
  have reached' : Reachable (runAll {} gapped) :=
    reachable_runAll .empty (by simp [gapped, Command.Proper])
  have operands : SameOperands (runAll {} dense) (runAll {} gapped) 0 1 1 0 :=
    ⟨by decide, by decide, by decide +kernel, by decide +kernel, by decide +kernel,
      by decide +kernel⟩
  have layouts : (some 0).map ((runAll {} dense).layout? · 1 0) =
      (some 1).map ((runAll {} gapped).layout? · 0 1) := by decide +kernel
  have same := SameCall.union {} operands layouts
  have outcome : (runAll {} dense).outcome (.union 0 1 (some 0) {}) =
      .ok { shapes := [⟨3, [(0, 1), (1, 1), (0, 2)]⟩, ⟨2, [(1, 0)]⟩]
            layout := some [some 2, some 0]
            event := some (.union 1 0 3 3) } := by rfl
  exact ⟨reached, reached', same,
    (shapes_determine_outcomes reached reached' same).symm.trans outcome⟩

end Workspace

end Multigraph
