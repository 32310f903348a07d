import Mathlib.Data.List.Sort
import Multigraph.Proofs.Action.Loop
import Multigraph.Proofs.Correspondence
import Multigraph.Proofs.Graph.Change
import Multigraph.Workspace.Basic

/-!
Registers. A register is what a correspondence would be if it were told of every change: it holds an
entry for every node of its graph, set or not, gets an unset one for every node that appears, and
loses the entry of every node that goes. A correspondence hears of nothing; it keeps the values of
nodes that have gone and is read through its graph. The two agree (`Agrees`) as long as no value
is kept for a handle that is still to be given out: then a write does the same to both
(`Agrees.assignAll`), and so does a change of the graph (`Agrees.follow`).
-/
namespace Multigraph

/-- A map that holds an entry for every node of its graph, set or not. -/
structure Register where
  graph? : Option GraphId := none
  entries : Table NodeId (Option Value) := ∅
  deriving DecidableEq

namespace Register

/-- The register of a graph with some nodes, all of them unset. -/
def opened (g : GraphId) (nodes : List NodeId) : Register where
  graph? := some g
  entries := ⟨nodes.map fun node => (node, none)⟩

/-- Assigns values to keys in the given order, up to the first handle that is no key. -/
def assignAll (r : Register) : List (NodeId × Option Value) → Register
  | [] => r
  | (node, value) :: rest =>
    if node ∈ r.entries.keys then
      assignAll { r with entries := r.entries.insert node value } rest
    else r

/-- The register when its graph has come to have other nodes: what has gone loses its entry, and
what is new gets an unset one. -/
def heed (r : Register) (nodes : List NodeId) : Register where
  graph? := r.graph?
  entries := ⟨(r.entries.entries.filter fun entry => entry.1 ∈ nodes) ++
    (nodes.filter fun node => node ∉ r.entries.keys).map fun node => (node, none)⟩

/-- The register when graphs have changed. -/
def follow (graph : GraphId → Graph) (r : Register) : Register :=
  match r.graph? with
  | some g => r.heed (graph g).nodes
  | none => r

/-- The values of the keys that are set. -/
def assignment (r : Register) : Assignment :=
  ⟨r.entries.entries.filterMap fun entry => entry.2.map fun value => (entry.1, value)⟩

end Register

/-! ## Values through a graph -/

namespace Assignment

/-- The values when one of them has been set or unset. -/
def put (values : Assignment) (node : NodeId) : Option Value → Assignment
  | some value => values.insert node value
  | none => values.erase node

/-- The values when several have been set or unset, up to the first handle that is no node. -/
def putAll (nodes : List NodeId) (values : Assignment) : List (NodeId × Option Value) → Assignment
  | [] => values
  | (node, value) :: rest =>
    if node ∈ nodes then putAll nodes (values.put node value) rest else values

variable {values : Assignment} {g : Graph} {node : NodeId} {value : Option Value}

theorem get?_put (values : Assignment) (node other : NodeId) (value : Option Value) :
    (values.put node value).get? other = if node = other then value else values.get? other := by
  cases value with
  | some v => exact Table.get?_insert values node other v
  | none => exact Table.get?_erase values node other

/-- Writing at a node puts the value there. -/
theorem write_run (held : node ∈ g.nodes) (value : Option Value) :
    write g node value values = .ok () (values.put node value) := by
  have required : requireKey g node = .ok () := if_pos held
  refine (Action.bind_of_ok (Action.ofExcept_of_ok required values)).trans ?_
  cases value <;> rfl

/-- Any other handle is refused. -/
theorem write_foreign (foreign : node ∉ g.nodes) (value : Option Value) :
    write g node value values = .error (.missingKey node) values := by
  have refused : requireKey g node = .error (.missingKey node) := if_neg foreign
  exact Action.bind_of_error (Action.query_of_error refused)

theorem read_of_mem (values : Assignment) (held : node ∈ g.nodes) :
    values.read g node = .ok (values.get? node) := by
  have required : requireKey g node = .ok () := if_pos held
  rw [read, required]
  rfl

theorem read_foreign (values : Assignment) (foreign : node ∉ g.nodes) :
    values.read g node = .error (.missingKey node) := by
  have refused : requireKey g node = .error (.missingKey node) := if_neg foreign
  rw [read, refused]
  rfl

theorem keys_items (values : Assignment) (g : Graph) : (values.items g).map Prod.fst = g.nodes := by
  rw [items, List.map_map]
  exact List.map_id _

/-- Putting a value at a node replaces the value of its item. -/
theorem items_put (distinct : g.nodes.Nodup) (held : node ∈ g.nodes) (value : Option Value) :
    (values.put node value).items g = Table.enter node value (values.items g) := by
  have loop : ∀ nodes : List NodeId, nodes.Nodup → node ∈ nodes →
      (nodes.map fun other => (other, (values.put node value).get? other)) =
        Table.enter node value (nodes.map fun other => (other, values.get? other)) := by
    intro nodes
    induction nodes with
    | nil =>
      intro _ listed
      cases listed
    | cons first rest ih =>
      intro distinct listed
      obtain ⟨new, others⟩ := List.nodup_cons.mp distinct
      rw [List.map_cons, List.map_cons, Table.enter, get?_put]
      by_cases same : node = first
      · subst same
        rw [if_pos rfl, if_pos rfl]
        refine congrArg _ (List.map_congr_left fun other member => ?_)
        have apart : node ≠ other := fun meet => new (meet ▸ member)
        rw [get?_put, if_neg apart]
      · have later := (List.mem_cons.mp listed).resolve_left same
        rw [if_neg same, if_neg (Ne.symm same), ih others later]
  exact loop g.nodes distinct held

theorem keys_put (values : Assignment) (node : NodeId) (value : Option Value) :
    ∀ key ∈ (values.put node value).keys, key = node ∨ key ∈ values.keys := by
  intro key listed
  cases value with
  | some v => exact Table.mem_keys_enter listed
  | none =>
    obtain ⟨entry, kept, rfl⟩ := List.mem_map.mp listed
    exact .inr (List.mem_map_of_mem (List.mem_filter.mp kept).1)

/-- Recording images puts them one after the other, all of them being at nodes. -/
theorem recordImages_eq_putAll {nodes : List NodeId} {images : Table NodeId NodeId}
    (inside : ∀ key ∈ images.keys, key ∈ nodes) (values : Assignment) :
    values.recordImages images =
      values.putAll nodes (images.entries.map fun entry => (entry.1, some (.int entry.2))) := by
  obtain ⟨entries⟩ := images
  rw [recordImages]
  simp only [Table.keys] at inside ⊢
  induction entries generalizing values with
  | nil => rfl
  | cons entry rest ih =>
    obtain ⟨here, later⟩ := List.forall_mem_cons.mp inside
    rw [List.foldl_cons, List.map_cons, putAll, if_pos here]
    exact ih _ later

end Assignment

/-! ## Agreement -/

/-- A correspondence reads as its register does, and keeps no value for a handle that is still to be
given out. -/
structure Agrees (graph : GraphId → Graph) (c : Correspondence) (r : Register) : Prop where
  graph?_eq : r.graph? = c.graph?
  entries_eq : ∀ g, c.graph? = some g → r.entries.entries = c.values.items (graph g)
  unbound : c.graph? = none → r.entries.entries = []
  below : ∀ g, c.graph? = some g → ∀ key ∈ c.values.keys, key < (graph g).nextNode

variable {graph later : GraphId → Graph} {c : Correspondence} {r : Register} {g : GraphId}

theorem agrees_absent (graph : GraphId → Graph) : Agrees graph {} {} where
  graph?_eq := rfl
  entries_eq g bound := by cases bound
  unbound _ := rfl
  below g bound := by cases bound

/-- A correspondence that has just been bound agrees with a register that has just been opened. -/
theorem agrees_opened (graph : GraphId → Graph) (g : GraphId) :
    Agrees graph { graph? := some g } (Register.opened g (graph g).nodes) where
  graph?_eq := rfl
  entries_eq h bound := by
    cases bound
    rfl
  unbound bound := by cases bound
  below h _ key listed := by cases listed

namespace Agrees

theorem keys_eq (agrees : Agrees graph c r) (bound : c.graph? = some g) :
    r.entries.keys = (graph g).nodes := by
  rw [Table.keys, agrees.entries_eq g bound, Assignment.keys_items]

/-- Assigning does the same to both. -/
theorem assignAll (agrees : Agrees graph c r) (bound : c.graph? = some g)
    (wf : (graph g).WellFormed) (entries : List (NodeId × Option Value)) :
    Agrees graph { c with values := c.values.putAll (graph g).nodes entries }
      (r.assignAll entries) := by
  induction entries generalizing c r with
  | nil => exact agrees
  | cons entry rest ih =>
    obtain ⟨node, value⟩ := entry
    rw [Register.assignAll, Assignment.putAll, agrees.keys_eq bound]
    by_cases held : node ∈ (graph g).nodes
    · rw [if_pos held, if_pos held]
      refine ih (c := { c with values := c.values.put node value }) ⟨agrees.graph?_eq, ?_, ?_, ?_⟩
        bound
      · intro h here
        obtain rfl : g = h := Option.some.inj (bound.symm.trans here)
        rw [Assignment.items_put wf.nodes_nodup held, ← agrees.entries_eq g bound]
        rfl
      · intro unbound
        rw [bound] at unbound
        cases unbound
      · intro h here key listed
        obtain rfl : g = h := Option.some.inj (bound.symm.trans here)
        rcases Assignment.keys_put _ _ _ key listed with rfl | old
        · exact (wf.nodes_below _ held).2
        · exact agrees.below g bound key old
    · rw [if_neg held, if_neg held]
      exact agrees

/-- Nothing can be assigned in a register that is not bound. -/
theorem assignAll_unbound (agrees : Agrees graph c r) (unbound : c.graph? = none)
    (entries : List (NodeId × Option Value)) : r.assignAll entries = r := by
  cases entries with
  | nil => rfl
  | cons entry rest =>
    rw [Register.assignAll, if_neg]
    rw [Table.keys, agrees.unbound unbound]
    exact List.not_mem_nil

end Agrees

/-- The set entries of a register hold the values of the correspondence. -/
theorem Agrees.get?_assignment (agrees : Agrees graph c r) (bound : c.graph? = some g)
    {node : NodeId} (held : node ∈ (graph g).nodes) :
    r.assignment.get? node = c.values.get? node := by
  have loop : ∀ nodes : List NodeId,
      Table.lookup node ((nodes.map fun other => (other, c.values.get? other)).filterMap
        fun entry => entry.2.map fun value => (entry.1, value)) =
        if node ∈ nodes then c.values.get? node else none := by
    intro nodes
    induction nodes with
    | nil => rfl
    | cons first rest ih =>
      rw [List.map_cons, List.filterMap_cons]
      cases set : c.values.get? first with
      | none =>
        simp only [Option.map_none, ih, List.mem_cons]
        by_cases same : node = first
        · simp [same, set]
        · simp [same]
      | some value =>
        simp only [Option.map_some, Table.lookup, ih, List.mem_cons]
        by_cases same : first = node
        · simp [← same, set]
        · simp [same, Ne.symm same]
  rw [Register.assignment, agrees.entries_eq g bound, Table.get?]
  exact (loop (graph g).nodes).trans (if_pos held)

/-- The nodes of a graph that has changed are those that are left of the old ones and, behind them,
those that are new. -/
theorem Graph.Follows.nodes_split {g h : Graph} (follows : g.Follows h) (wf : g.WellFormed)
    (other : h.WellFormed) :
    h.nodes = (g.nodes.filter fun node => node ∈ h.nodes) ++
      h.nodes.filter fun node => node ∉ g.nodes := by
  have ordered : ((g.nodes.filter fun node => node ∈ h.nodes) ++
      h.nodes.filter fun node => node ∉ g.nodes).Pairwise (· < ·) := by
    refine List.pairwise_append.mpr
      ⟨wf.nodes_increasing.filter _, other.nodes_increasing.filter _, ?_⟩
    intro old left new listed
    have below := (wf.nodes_below old (List.mem_filter.mp left).1).2
    obtain ⟨held, foreign⟩ := List.mem_filter.mp listed
    have above := (follows.nodes_old_or_fresh new held).resolve_left (by simpa using foreign)
    lia
  have same : ∀ node, node ∈ h.nodes ↔ node ∈ (g.nodes.filter fun node => node ∈ h.nodes) ++
      h.nodes.filter fun node => node ∉ g.nodes := by
    intro node
    simp only [List.mem_append, List.mem_filter, decide_eq_true_eq]
    constructor
    · intro held
      by_cases old : node ∈ g.nodes
      · exact .inl ⟨old, held⟩
      · exact .inr ⟨held, old⟩
    · rintro (⟨_, held⟩ | ⟨held, _⟩)
      · exact held
      · exact held
  have perm := (List.perm_ext_iff_of_nodup other.nodes_nodup
    (ordered.imp fun less => Int.ne_of_lt less)).mpr same
  exact perm.eq_of_pairwise (fun a b _ _ less more => absurd less (Int.lt_asymm more))
    other.nodes_increasing ordered

/-- A change of the graph does the same to both: nothing is kept for the handles that are new. -/
theorem Agrees.follow (agrees : Agrees graph c r) (wf : ∀ g, (graph g).WellFormed)
    (becomes : ∀ g, (graph g).Becomes (later g)) : Agrees later c (r.follow later) := by
  cases binding : c.graph? with
  | none =>
    have unbound : r.graph? = none := agrees.graph?_eq.trans binding
    have same : r.follow later = r := by rw [Register.follow, unbound]
    rw [same]
    refine ⟨agrees.graph?_eq, fun g bound => ?_, agrees.unbound, fun g bound => ?_⟩
    · rw [binding] at bound
      cases bound
    · rw [binding] at bound
      cases bound
  | some g =>
    have bound : r.graph? = some g := agrees.graph?_eq.trans binding
    have follows := (becomes g).follows
    have keys := agrees.keys_eq binding
    have changed : r.follow later = r.heed (later g).nodes := by rw [Register.follow, bound]
    rw [changed]
    refine ⟨agrees.graph?_eq, fun h here => ?_, fun unbound => ?_, fun h here key listed => ?_⟩
    · obtain rfl : g = h := Option.some.inj (binding.symm.trans here)
      have split := follows.nodes_split (wf g) ((becomes g).wellFormed (wf g))
      have unset : ∀ node ∈ (later g).nodes, node ∉ (graph g).nodes →
          c.values.get? node = none := by
        intro node held foreign
        refine Table.lookup_eq_none fun kept => ?_
        have below := agrees.below g binding node kept
        have above := (follows.nodes_old_or_fresh node held).resolve_left foreign
        lia
      have items : c.values.items (later g) = _ ++ _ :=
        (congrArg (List.map fun node => (node, c.values.get? node)) split).trans List.map_append
      rw [items, Register.heed, keys]
      refine congrArg₂ (· ++ ·) ?_ (List.map_congr_left fun node listed => ?_)
      · rw [agrees.entries_eq g binding, Assignment.items, List.filter_map]
        rfl
      · obtain ⟨held, foreign⟩ := List.mem_filter.mp listed
        rw [unset node held (by simpa using foreign)]
    · rw [binding] at unbound
      cases unbound
    · obtain rfl : g = h := Option.some.inj (binding.symm.trans here)
      have below := agrees.below g binding key listed
      have counter := follows.nextNode_le
      lia

end Multigraph
