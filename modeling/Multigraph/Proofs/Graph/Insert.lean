import Multigraph.Proofs.Graph.Drawing
import Multigraph.Proofs.Table

/-!
Inserting a graph into another. The copies of the nodes get handles in their order, so the copy of
a node is told by `handleOf`; the copies of the edges run between the copies of their ends, in
their order too (`insert_run`). Nothing that was there before is touched.
-/
namespace Multigraph

open Multigraph.Action

/-- The ends of an edge after its nodes have gone where a function sends them. -/
def Edge.endsUnder (f : NodeId → NodeId) (e : Edge) : NodeId × NodeId := (f e.source, f e.target)

namespace Graph

/-- The graph with a number of new last nodes. -/
def withNodes (g : Graph) (count : Nat) : Graph :=
  { g with nodes := g.nodes ++ handlesFrom g.nextNode count, nextNode := g.nextNode + count }

@[simp] theorem nodes_withNodes (g : Graph) (count : Nat) :
    (g.withNodes count).nodes = g.nodes ++ handlesFrom g.nextNode count := rfl

@[simp] theorem edges_withNodes (g : Graph) (count : Nat) :
    (g.withNodes count).edges = g.edges := rfl

@[simp] theorem nextNode_withNodes (g : Graph) (count : Nat) :
    (g.withNodes count).nextNode = g.nextNode + count := rfl

@[simp] theorem nextEdge_withNodes (g : Graph) (count : Nat) :
    (g.withNodes count).nextEdge = g.nextEdge := rfl

theorem withNodes_zero (g : Graph) : g.withNodes 0 = g := by
  simp [withNodes, handlesFrom]

theorem withNodes_succ (g : Graph) (count : Nat) :
    g.withNodes (count + 1) = g.withNode.withNodes count := by
  have shift : g.nextNode + ((count + 1 : Nat) : Int) = g.nextNode + 1 + count := by lia
  simp only [withNodes, withNode, handlesFrom, shift, List.append_assoc, List.singleton_append]

/-- Making nodes is a number of primitive changes. -/
theorem becomes_withNodes (g : Graph) (count : Nat) : g.Becomes (g.withNodes count) := by
  induction count generalizing g with
  | zero =>
    rw [withNodes_zero]
    exact refl g
  | succ count ih =>
    rw [withNodes_succ]
    exact (Change.node g).becomes.trans (ih g.withNode)

/-- When the members of a list get nodes, the node of each is there. -/
theorem handleOf_mem_withNodes {α : Type} [DecidableEq α] (g : Graph) {l : List α} {a : α}
    (member : a ∈ l) : handleOf g.nextNode l a ∈ (g.withNodes l.length).nodes :=
  List.mem_append_right _ (handleOf_mem member)

variable {g : Graph}

/-- Old nodes are earlier than copies. -/
theorem old_lt_copy (wf : g.WellFormed) {node : NodeId} (old : node ∈ g.nodes)
    (nodes : List NodeId) (a : NodeId) : node < handleOf g.nextNode nodes a :=
  Int.lt_of_lt_of_le (wf.nodes_below node old).2 (le_handleOf g.nextNode nodes a)

theorem copyNode_run (node : NodeId) :
    copyNode node g = .ok (node, g.nextNode) g.withNode := rfl

/-- Copying nodes makes as many nodes and answers which became which. -/
theorem copyNodes_run (nodes : List NodeId) :
    nodes.mapM copyNode g =
      .ok (nodes.zip (handlesFrom g.nextNode nodes.length)) (g.withNodes nodes.length) := by
  induction nodes generalizing g with
  | nil =>
    rw [List.length_nil, withNodes_zero]
    rfl
  | cons node rest ih =>
    rw [List.length_cons, withNodes_succ, handlesFrom, List.zip_cons_cons]
    exact mapM_cons_of_ok (copyNode_run node) ih

/-- Copying edges draws an edge between the images of the ends of each. -/
theorem copyEdges_run (image : Table NodeId NodeId) (f : NodeId → NodeId) (edges : List Edge)
    (known : ∀ e ∈ edges, image.fetch e.source = .ok (f e.source) ∧
      image.fetch e.target = .ok (f e.target))
    (inside : ∀ e ∈ edges, f e.source ∈ g.nodes ∧ f e.target ∈ g.nodes) :
    edges.mapM (copyEdge image) g =
      .ok ((edges.map Edge.id).zip (handlesFrom g.nextEdge edges.length))
        (g.withEdges (edges.map (Edge.endsUnder f))) := by
  induction edges generalizing g with
  | nil => exact congrArg (EStateM.Result.ok []) (withEdges_nil g).symm
  | cons e rest ih =>
    obtain ⟨source, target⟩ := known e List.mem_cons_self
    obtain ⟨held, reached⟩ := inside e List.mem_cons_self
    have first : copyEdge image e g =
        .ok (e.id, g.nextEdge) (g.withEdge (f e.source) (f e.target)) :=
      (bind_of_ok (ofExcept_of_ok source g)).trans
        ((bind_of_ok (ofExcept_of_ok target g)).trans (bind_of_ok (newEdge_run held reached)))
    have others := ih (g := g.withEdge (f e.source) (f e.target))
      (fun later member => known later (List.mem_cons_of_mem e member))
      (fun later member => inside later (List.mem_cons_of_mem e member))
    have split : g.withEdges ((e :: rest).map (Edge.endsUnder f)) =
        (g.withEdge (f e.source) (f e.target)).withEdges (rest.map (Edge.endsUnder f)) :=
      withEdges_append g [Edge.endsUnder f e] (rest.map (Edge.endsUnder f))
    rw [split]
    exact mapM_cons_of_ok first others

/-- A table that pairs nodes with their copies finds the copies. -/
theorem fetch_copies (first : NodeId) {nodes : List NodeId} {node : NodeId}
    (member : node ∈ nodes) :
    (⟨nodes.zip (handlesFrom first nodes.length)⟩ : Table NodeId NodeId).fetch node =
      .ok (handleOf first nodes node) := by
  rw [Table.fetch, Table.get?, lookup_zip_handlesFrom, if_pos member]

theorem keys_zip_handlesFrom {α : Type} (l : List α) (first : Int) :
    (l.zip (handlesFrom first l.length)).map Prod.fst = l :=
  List.map_fst_zip (Nat.le_of_eq (length_handlesFrom first l.length).symm)

/-- Inserting a graph copies its nodes and then its edges, and answers where each of them went. -/
theorem insert_run {other : Graph} (wf : other.WellFormed) :
    insert other g =
      .ok ⟨⟨other.nodes.zip (handlesFrom g.nextNode other.nodes.length)⟩,
          ⟨(other.edges.map Edge.id).zip (handlesFrom g.nextEdge other.edges.length)⟩⟩
        ((g.withNodes other.nodes.length).withEdges
          (other.edges.map (Edge.endsUnder (handleOf g.nextNode other.nodes)))) := by
  have nodeTable : Table.ofList (other.nodes.zip (handlesFrom g.nextNode other.nodes.length)) =
      ⟨other.nodes.zip (handlesFrom g.nextNode other.nodes.length)⟩ :=
    Table.ofList_eq (by rw [keys_zip_handlesFrom]; exact wf.nodes_nodup)
  have edgeTable : Table.ofList
      ((other.edges.map Edge.id).zip (handlesFrom g.nextEdge other.edges.length)) =
        ⟨(other.edges.map Edge.id).zip (handlesFrom g.nextEdge other.edges.length)⟩ := by
    have keys := keys_zip_handlesFrom (other.edges.map Edge.id) g.nextEdge
    rw [List.length_map] at keys
    exact Table.ofList_eq (by rw [keys]; exact wf.ids_nodup)
  have drawn := copyEdges_run (g := g.withNodes other.nodes.length)
    ⟨other.nodes.zip (handlesFrom g.nextNode other.nodes.length)⟩
    (handleOf g.nextNode other.nodes) other.edges
    (fun e member => ⟨fetch_copies _ (wf.ends_mem e member).1,
      fetch_copies _ (wf.ends_mem e member).2⟩)
    (fun e member => ⟨handleOf_mem_withNodes g (wf.ends_mem e member).1,
      handleOf_mem_withNodes g (wf.ends_mem e member).2⟩)
  refine (bind_of_ok (copyNodes_run other.nodes)).trans ?_
  rw [nodeTable]
  refine (bind_of_ok drawn).trans ?_
  exact congrArg (fun edges => EStateM.Result.ok (Renaming.mk _ edges) _) edgeTable

end Graph

end Multigraph
