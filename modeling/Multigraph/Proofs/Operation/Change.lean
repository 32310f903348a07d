import Multigraph.Operation.Complement
import Multigraph.Operation.Intersection
import Multigraph.Operation.Join
import Multigraph.Operation.Union
import Multigraph.Product.Basic
import Multigraph.Proofs.Graph.Change

/-!
The operations only change graphs. Union, join, intersection and complement are loops over the
primitive changes, and so is the building of a product, provided that its edge rule is. What they
keep is kept whatever they are given: the same graph twice, identifications that lead nowhere, a
rule that fails halfway.
-/
namespace Multigraph

open Multigraph.Action Multigraph.Graph

namespace Graph

theorem union_changes (second : Graph) (preset : Assignment) (policy : UnionPolicy) :
    Keeps Becomes (union second preset policy) := by
  have addImage_changes : ∀ images node, Keeps Becomes (addImage images node) := fun images node =>
    keeps_bind newNode_changes fun _ => keeps_pure _
  have drawEdge_changes : ∀ images e, Keeps Becomes (drawEdge images e) := fun images e =>
    keeps_bind (keeps_ofExcept _) fun source => keeps_bind (keeps_ofExcept _) fun target =>
      keeps_discard (newEdge_changes source target)
  have applyPolicy_changes : Keeps Becomes (applyPolicy policy) :=
    keeps_ite (removeParallel_changes policy.directed) (keeps_pure 0)
  exact keeps_bind keeps_get fun _ => keeps_bind (keeps_ofExcept _) fun _ =>
    keeps_bind (keeps_foldlM (fun images node _ => addImage_changes images node) _) fun images =>
      keeps_bind (keeps_forM fun e _ => drawEdge_changes images e) fun _ =>
        keeps_bind applyPolicy_changes fun _ => keeps_bind keeps_get fun _ => keeps_pure _

theorem disjointUnion_changes (second : Graph) : Keeps Becomes (disjointUnion second) :=
  keeps_bind (insert_changes second) fun _ => keeps_pure _

theorem read_keeps {R : Graph → Graph → Prop} [IsPreorder Graph R] (second : Operand) :
    Keeps R second.read := keeps_bind keeps_get fun _ => keeps_pure _

theorem absorb_changes (old new : NodeId) : Keeps Becomes (absorb old new) :=
  keeps_bind (keeps_query _) fun _ =>
    keeps_bind (keeps_forM fun _ _ => keeps_discard (newEdge_changes _ _)) fun _ =>
      deleteNode_changes old

theorem settle_changes (second : Operand) (identified images : Table NodeId NodeId)
    (node : NodeId) : Keeps Becomes (settle second identified images node) := by
  refine keeps_bind (read_keeps second) fun current => keeps_bind (keeps_ofExcept _) fun _ => ?_
  split
  · exact keeps_pure _
  · exact keeps_bind (keeps_ofExcept _) fun copy =>
      keeps_bind (absorb_changes copy _) fun _ => keeps_pure _

theorem join_changes (second : Operand) (preset : Assignment) :
    Keeps Becomes (join second preset) := by
  have crossEdges_changes : ∀ old images node, Keeps Becomes (crossEdges old images node) :=
    fun old images node => keeps_bind (keeps_ofExcept _) fun image =>
      keeps_forM fun n _ => keeps_ite (keeps_pure _) (keeps_discard (newEdge_changes n image))
  exact keeps_bind keeps_get fun _ => keeps_bind (keeps_ofExcept _) fun identified =>
    keeps_bind (insert_changes _) fun _ => keeps_bind (read_keeps second) fun _ =>
      keeps_bind (keeps_foldlM (fun images node _ => settle_changes second _ images node) _)
        fun images => keeps_bind (read_keeps second) fun _ =>
          keeps_bind (keeps_forM fun node _ => crossEdges_changes _ images node) fun _ =>
            keeps_bind (removeParallel_changes false) fun _ =>
              keeps_bind keeps_get fun _ => keeps_pure _

/-- An intersection only deletes, so it keeps all that deletions keep. -/
theorem intersection_keeps {R : Graph → Graph → Prop} [IsPreorder Graph R]
    (onEdge : ∀ edge, Keeps R (deleteEdge edge))
    (onNode : ∀ node, Keeps R (deleteNode node)) (second : Operand) (correspondence : Assignment) :
    Keeps R (intersection second correspondence) := by
  have trimEdge_keeps : ∀ images node beside dropped e,
      Keeps R (trimEdge images node beside dropped e) := fun images node beside dropped e =>
    keeps_bind (keeps_query _) fun _ => keeps_bind (keeps_ofExcept _) fun _ =>
      keeps_ite (keeps_pure _) (keeps_bind (onEdge e.id) fun _ => keeps_pure _)
  have trimNode_keeps : ∀ images dropped node,
      Keeps R (trimNode second images dropped node) := fun images dropped node =>
    keeps_bind (keeps_ofExcept _) fun _ => keeps_bind (read_keeps second) fun _ =>
      keeps_bind (keeps_ofExcept _) fun beside => keeps_bind (keeps_query _) fun _ =>
        keeps_foldlM (fun dropped e _ => trimEdge_keeps images node beside dropped e) dropped
  exact keeps_bind keeps_get fun _ => keeps_bind (keeps_ofExcept _) fun images =>
    keeps_bind (keeps_forM fun node _ => onNode node) fun _ =>
      keeps_bind keeps_get fun _ =>
        keeps_bind (keeps_foldlM (fun dropped node _ => trimNode_keeps images dropped node) 0)
          fun _ => keeps_bind keeps_get fun _ => keeps_pure _

theorem intersection_changes (second : Operand) (correspondence : Assignment) :
    Keeps Becomes (intersection second correspondence) :=
  intersection_keeps deleteEdge_changes deleteNode_changes second correspondence

theorem sweepNode_changes (policy : ComplementPolicy) (fresh : EdgeId) (counts : Nat × Nat)
    (n : NodeId) : Keeps Becomes (sweepNode policy fresh counts n) := by
  have sweepIncidence_changes : ∀ reached i,
      Keeps Becomes (sweepIncidence policy fresh reached i) := fun reached i =>
    keeps_bind keeps_get fun _ => keeps_ite
      (keeps_bind (deleteEdge_changes i.edge) fun _ => keeps_pure _) (keeps_pure _)
  have sweepPair_changes : ∀ reached created m,
      Keeps Becomes (sweepPair policy reached n created m) := fun reached created m =>
    keeps_ite (keeps_bind (keeps_discard (newEdge_changes n m)) fun _ => keeps_pure _)
      (keeps_pure _)
  exact keeps_bind (keeps_query _) fun _ =>
    keeps_bind (keeps_foldlM (fun reached i _ => sweepIncidence_changes reached i) [])
      fun reached => keeps_bind keeps_get fun _ =>
        keeps_bind (keeps_foldlM (fun created m _ => sweepPair_changes reached created m) _)
          fun _ => keeps_pure _

theorem complement_changes (policy : ComplementPolicy) : Keeps Becomes (complement policy) :=
  keeps_bind keeps_get fun g =>
    keeps_bind (keeps_foldlM (fun counts n _ => sweepNode_changes policy g.nextEdge counts n) _)
      fun _ => keeps_pure _

end Graph

/-! ## Products -/

/-- Calls that do nothing to the destination but change it, by the changes a graph offers, and may
fail at any moment. -/
def EdgeCall.OnlyChanges {μ : Type} (call : EdgeCall μ) : Prop :=
  ∀ grid first second, Keeps (InvImage Becomes Prod.fst) (call grid first second)

/-- To write down the pairs is no change. -/
theorem EdgeCall.OnlyChanges.recorded {μ : Type} {call : EdgeCall μ} (changes : call.OnlyChanges) :
    call.recorded.OnlyChanges := fun grid v w =>
  keeps_bind (keeps_modify fun state => refl state.1) fun _ =>
    keeps_within (changes grid v w) fun _ _ becomes => becomes

namespace Drawing

/-- A drawing that does nothing to the destination but change it. -/
def OnlyChanges (drawing : Drawing) : Prop :=
  ∀ grid first second, Keeps Becomes (drawing grid first second)

theorem OnlyChanges.call {μ : Type} {drawing : Drawing} (changes : drawing.OnlyChanges) :
    (drawing.call : EdgeCall μ).OnlyChanges := fun grid v w =>
  keeps_within (changes grid v w) fun _ _ becomes => becomes

theorem along_changes (targets : NodeId → NodeId → Except Failure (List (NodeId × NodeId))) :
    OnlyChanges (along targets) := fun _ _ _ =>
  keeps_bind (keeps_ofExcept _) fun node => keeps_bind (keeps_ofExcept _) fun _ =>
    keeps_forM fun _ _ => keeps_bind (keeps_ofExcept _) fun other =>
      keeps_discard (newEdge_changes node other)

theorem followedBy_changes {first second : Drawing} (earlier : OnlyChanges first)
    (later : OnlyChanges second) : OnlyChanges (followedBy first second) := fun grid v w =>
  keeps_bind (earlier grid v w) fun _ => later grid v w

theorem firstEdgesAt_changes (root : NodeId) (first : Graph) :
    OnlyChanges (firstEdgesAt root first) := fun grid v w =>
  keeps_ite (along_changes _ grid v w) (keeps_pure ())

/-- The drawings of the products only change the destination. -/
theorem drawing_changes (product : Product) (first second : Graph) :
    OnlyChanges (product.drawing first second) := by
  cases product with
  | cartesian => exact followedBy_changes (along_changes _) (along_changes _)
  | tensor => exact along_changes _
  | lexicographical => exact followedBy_changes (along_changes _) (along_changes _)
  | strong =>
    exact followedBy_changes (followedBy_changes (along_changes _) (along_changes _))
      (along_changes _)
  | coNormal => exact followedBy_changes (along_changes _) (along_changes _)
  | modular => exact followedBy_changes (along_changes _) (along_changes _)
  | rooted root => exact followedBy_changes (along_changes _) (firstEdgesAt_changes root first)

end Drawing

namespace Build

variable {α μ : Type}

/-- The destination becomes another graph; the grid and the memory may be anything. -/
def Becomes (before after : Build μ) : Prop := before.graph.Becomes after.graph

instance : IsPreorder (Build μ) Becomes where
  refl build := refl build.graph
  trans _ _ _ := Graph.Becomes.trans

theorem onGraph_changes {action : Action Graph α} (kept : Keeps Graph.Becomes action) :
    Keeps (Becomes (μ := μ)) (onGraph action) := keeps_within kept fun _ _ becomes => becomes

/-- Building under calls that only change the destination only changes the destination. -/
theorem run_changes (first second : Operand) {call : Graph → Graph → EdgeCall μ}
    (lawful : ∀ first second, (call first second).OnlyChanges) :
    Keeps Becomes (run first second call) := by
  have placePair_changes : ∀ pair, Keeps (Becomes (μ := μ)) (placePair pair) := fun pair =>
    keeps_bind (onGraph_changes newNode_changes) fun _ => keeps_modify fun build => refl build.graph
  have visitPair_changes : ∀ v w pair, Keeps Becomes (visitPair (call v w) pair) := fun v w pair =>
    keeps_bind keeps_get fun build =>
      keeps_within (lawful v w build.grid pair.1 pair.2) fun _ _ becomes => becomes
  exact keeps_bind (keeps_modify fun build => (Change.clear build.graph).becomes) fun _ =>
    keeps_bind keeps_get fun _ => keeps_bind (keeps_forM fun pair _ => placePair_changes pair)
      fun _ => keeps_bind (keeps_forM fun pair _ => visitPair_changes _ _ pair) fun _ =>
        keeps_bind keeps_get fun _ => keeps_pure _

end Build

theorem Product.request_changes (kind : Datum) (root : Option NodeId) (first second : Operand) :
    Keeps Build.Becomes (Product.request kind root first second) :=
  keeps_bind (keeps_ofExcept _) fun product => keeps_bind (keeps_query _) fun _ =>
    Build.run_changes first second fun v w => (Drawing.drawing_changes product v w).call

end Multigraph
