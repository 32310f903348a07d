import Multigraph.Proofs.Action.Loop
import Multigraph.Proofs.Graph.Change
import Multigraph.Proofs.Graph.Handles

/-!
Drawing edges. Operations make their edges one by one, between nodes that are there; what they
draw is then told by the list of the ends, for the handles follow from the counter. `Draws` says
this of an action, and its lemmas put the list of a loop together from the lists of its passes.
-/
namespace Multigraph

namespace Edge

/-- Source and target of an edge. -/
def ends (e : Edge) : NodeId × NodeId := (e.source, e.target)

/-- Edges between given ends, with consecutive handles from a counter on. -/
def numbered (first : EdgeId) : List (NodeId × NodeId) → List Edge
  | [] => []
  | (source, target) :: rest => ⟨first, source, target⟩ :: numbered (first + 1) rest

end Edge

namespace Edge

@[simp] theorem map_ends_numbered (first : EdgeId) (ends : List (NodeId × NodeId)) :
    (numbered first ends).map Edge.ends = ends := by
  induction ends generalizing first with
  | nil => rfl
  | cons pair rest ih => rw [numbered, List.map_cons, ih, Edge.ends]

@[simp] theorem map_id_numbered (first : EdgeId) (ends : List (NodeId × NodeId)) :
    (numbered first ends).map Edge.id = handlesFrom first ends.length := by
  induction ends generalizing first with
  | nil => rfl
  | cons pair rest ih => rw [numbered, List.map_cons, ih, List.length_cons, handlesFrom]

@[simp] theorem length_numbered (first : EdgeId) (ends : List (NodeId × NodeId)) :
    (numbered first ends).length = ends.length := by
  rw [← List.length_map Edge.ends, map_ends_numbered]

theorem numbered_append (first : EdgeId) (ends more : List (NodeId × NodeId)) :
    numbered first (ends ++ more) =
      numbered first ends ++ numbered (first + ends.length) more := by
  induction ends generalizing first with
  | nil => simp [numbered]
  | cons pair rest ih =>
    have shift : first + 1 + (rest.length : Int) = first + ((rest.length + 1 : Nat) : Int) := by
      lia
    rw [List.cons_append, numbered, numbered, ih, List.cons_append, List.length_cons, shift]

/-- A numbered edge has a handle from the counter on. -/
theorem le_id_of_mem_numbered {first : EdgeId} {ends : List (NodeId × NodeId)} {e : Edge}
    (member : e ∈ numbered first ends) : first ≤ e.id := by
  have listed : e.id ∈ (numbered first ends).map Edge.id := List.mem_map_of_mem member
  rw [map_id_numbered] at listed
  exact (mem_handlesFrom.mp listed).1

theorem ends_mem_of_mem_numbered {first : EdgeId} {ends : List (NodeId × NodeId)} {e : Edge}
    (member : e ∈ numbered first ends) : e.ends ∈ ends := by
  have listed := List.mem_map_of_mem (f := Edge.ends) member
  rwa [map_ends_numbered] at listed

/-- As many numbered edges have a property of their ends as ends have it. -/
theorem countP_numbered (first : EdgeId) (ends : List (NodeId × NodeId))
    (p : NodeId × NodeId → Bool) :
    (numbered first ends).countP (fun e => p e.ends) = ends.countP p := by
  have mapped := List.countP_map (p := p) (f := Edge.ends) (l := numbered first ends)
  rw [map_ends_numbered] at mapped
  exact mapped.symm

/-- The edge found by its ends has the ends found. -/
theorem find?_map_ends (edges : List Edge) (p : NodeId × NodeId → Bool) :
    (edges.map Edge.ends).find? p = (edges.find? fun e => p e.ends).map Edge.ends :=
  List.find?_map

theorem runs_eq (e : Edge) (u v : NodeId) : e.runs u v = decide (e.ends = (u, v)) := by
  simp [runs, Edge.ends]

end Edge

/-! ## Drawing -/

namespace Graph

/-- A view at a node of the graph is answered. -/
theorem atNode_of_mem {α : Type} {g : Graph} (view : Graph → NodeId → α) {node : NodeId}
    (held : node ∈ g.nodes) : g.atNode view node = .ok (view g node) := by
  rw [atNode, requireNode_of_mem held]
  rfl

/-- Asking for a view at a node of the graph is answered. -/
theorem query_atNode_run {α : Type} {g : Graph} (view : Graph → NodeId → α) {node : NodeId}
    (held : node ∈ g.nodes) :
    Action.query (Graph.atNode · view node) g = .ok (view g node) g :=
  Action.query_of_ok (atNode_of_mem view held)

/-- The graph with new last edges between given ends. -/
def withEdges (g : Graph) (ends : List (NodeId × NodeId)) : Graph :=
  { g with edges := g.edges ++ Edge.numbered g.nextEdge ends, nextEdge := g.nextEdge + ends.length }

@[simp] theorem nodes_withEdges (g : Graph) (ends : List (NodeId × NodeId)) :
    (g.withEdges ends).nodes = g.nodes := rfl

@[simp] theorem edges_withEdges (g : Graph) (ends : List (NodeId × NodeId)) :
    (g.withEdges ends).edges = g.edges ++ Edge.numbered g.nextEdge ends := rfl

@[simp] theorem nextNode_withEdges (g : Graph) (ends : List (NodeId × NodeId)) :
    (g.withEdges ends).nextNode = g.nextNode := rfl

@[simp] theorem nextEdge_withEdges (g : Graph) (ends : List (NodeId × NodeId)) :
    (g.withEdges ends).nextEdge = g.nextEdge + ends.length := rfl

theorem withEdges_nil (g : Graph) : g.withEdges [] = g := by
  simp [withEdges, Edge.numbered]

theorem withEdges_append (g : Graph) (ends more : List (NodeId × NodeId)) :
    g.withEdges (ends ++ more) = (g.withEdges ends).withEdges more := by
  simp only [withEdges, Edge.numbered_append, List.append_assoc, List.length_append,
    Int.natCast_add, Int.add_assoc]

theorem withEdges_singleton (g : Graph) (source target : NodeId) :
    g.withEdges [(source, target)] = g.withEdge source target := rfl

/-- Drawing edges between nodes is a number of primitive changes. -/
theorem becomes_withEdges {g : Graph} {ends : List (NodeId × NodeId)}
    (inside : ∀ pair ∈ ends, pair.1 ∈ g.nodes ∧ pair.2 ∈ g.nodes) :
    g.Becomes (g.withEdges ends) := by
  induction ends generalizing g with
  | nil =>
    rw [withEdges_nil]
    exact refl g
  | cons pair rest ih =>
    have first := inside pair List.mem_cons_self
    have split : g.withEdges (pair :: rest) = (g.withEdge pair.1 pair.2).withEdges rest :=
      withEdges_append g [pair] rest
    rw [split]
    exact (Change.edge first.1 first.2).becomes.trans
      (ih fun later held => inside later (List.mem_cons_of_mem pair held))

/-- An action that, in every graph with these nodes, draws edges between the given ends in their
order, and always gives the same answer. -/
def Draws {α : Type} (nodes : List NodeId) (action : Action Graph α) (answer : α)
    (ends : List (NodeId × NodeId)) : Prop :=
  ∀ g : Graph, g.nodes = nodes → action g = .ok answer (g.withEdges ends)

variable {α β : Type} {nodes : List NodeId}

theorem draws_pure (answer : α) : Draws nodes (pure answer) answer [] := by
  intro g _
  rw [withEdges_nil]
  rfl

theorem draws_ofExcept {checked : Except Failure α} {answer : α} (passed : checked = .ok answer) :
    Draws nodes (Action.ofExcept checked) answer [] := by
  intro g _
  rw [withEdges_nil]
  exact Action.query_of_ok passed

theorem draws_newEdge {source target : NodeId} (held : source ∈ nodes) (reached : target ∈ nodes) :
    Draws nodes (discard (newEdge source target)) () [(source, target)] := by
  rintro g rfl
  rw [withEdges_singleton]
  exact Action.discard_of_ok (newEdge_run held reached)

theorem draws_bind {action : Action Graph α} {next : α → Action Graph β} {answer : α} {last : β}
    {ends more : List (NodeId × NodeId)} (first : Draws nodes action answer ends)
    (second : Draws nodes (next answer) last more) :
    Draws nodes (action >>= next) last (ends ++ more) := by
  intro g same
  rw [withEdges_append]
  exact (Action.bind_of_ok (first g same)).trans (second (g.withEdges ends) same)

/-- A check that passes draws nothing. -/
theorem draws_checked {checked : Except Failure α} {next : α → Action Graph β} {answer : α}
    {last : β} {ends : List (NodeId × NodeId)} (passed : checked = .ok answer)
    (rest : Draws nodes (next answer) last ends) :
    Draws nodes (Action.ofExcept checked >>= next) last ends :=
  draws_bind (draws_ofExcept passed) rest

/-- A loop draws what its passes draw, one after the other. -/
theorem draws_forM {l : List α} {pass : α → Action Graph Unit}
    {ends : α → List (NodeId × NodeId)} (each : ∀ a ∈ l, Draws nodes (pass a) () (ends a)) :
    Draws nodes (l.forM pass) () (l.flatMap ends) := by
  induction l with
  | nil => exact draws_pure ()
  | cons a rest ih =>
    exact draws_bind (each a List.mem_cons_self)
      (ih fun b held => each b (List.mem_cons_of_mem a held))

/-- A loop with an accumulator draws what its passes draw, as long as that does not depend on the
accumulator. -/
theorem draws_foldlM {l : List α} {pass : β → α → Action Graph β} {next : β → α → β}
    {ends : α → List (NodeId × NodeId)}
    (each : ∀ b, ∀ a ∈ l, Draws nodes (pass b a) (next b a) (ends a)) (start : β) :
    Draws nodes (l.foldlM pass start) (l.foldl next start) (l.flatMap ends) := by
  induction l generalizing start with
  | nil => exact draws_pure start
  | cons a rest ih =>
    rw [List.foldlM_cons, List.foldl_cons, List.flatMap_cons]
    exact draws_bind (each start a List.mem_cons_self)
      (ih (fun b c held => each b c (List.mem_cons_of_mem a held)) (next start a))

theorem flatMap_chosen (l : List α) (p : α → Bool) (pair : α → β) :
    (l.flatMap fun a => if p a then [pair a] else []) = (l.filter p).map pair := by
  induction l with
  | nil => rfl
  | cons a rest ih => cases chosen : p a <;> simp [chosen, ih]

/-- A counting loop that draws one edge for each element with a property. -/
theorem draws_counted {l : List α} {pass : Nat → α → Action Graph Nat} {p : α → Bool}
    {pair : α → NodeId × NodeId}
    (each : ∀ count, ∀ a ∈ l, Draws nodes (pass count a) (if p a then count + 1 else count)
      (if p a then [pair a] else [])) (start : Nat) :
    Draws nodes (l.foldlM pass start) (start + (l.filter p).length) ((l.filter p).map pair) := by
  have drawn := draws_foldlM each start
  have counted : l.foldl (fun count a => if p a then count + 1 else count) start =
      start + (l.filter p).length := by
    clear each drawn
    induction l generalizing start with
    | nil => rfl
    | cons a rest ih =>
      cases chosen : p a with
      | true =>
        rw [List.foldl_cons, chosen, if_pos rfl, ih, List.filter_cons_of_pos chosen,
          List.length_cons]
        omega
      | false =>
        rw [List.foldl_cons, chosen, if_neg (by simp), ih, List.filter_cons_of_neg (by simp [chosen])]
  rwa [counted, flatMap_chosen] at drawn

/-- A loop that draws one edge for each element with a property. -/
theorem draws_chosen {l : List α} {pass : α → Action Graph Unit} {p : α → Bool}
    {pair : α → NodeId × NodeId}
    (each : ∀ a ∈ l, Draws nodes (pass a) () (if p a then [pair a] else [])) :
    Draws nodes (l.forM pass) () ((l.filter p).map pair) := by
  have drawn := draws_forM each
  rwa [flatMap_chosen] at drawn

end Graph

end Multigraph
