import Multigraph.Graph.Incidence

/-!
Connected components, whatever the direction of the edges. `Connected` says when two nodes hang
together. To count the components every node carries a label, its own handle at first, and each
edge gives the label of its source to all nodes that carry the label of its target. In the end
every component has one label, which is the handle of one of its nodes, so the components are
counted by the nodes that carry their own handle.
-/
namespace Multigraph.Graph

/-- Two nodes hang together when a walk along edges, in either direction, leads from one to the
other. -/
inductive Connected (g : Graph) : NodeId → NodeId → Prop where
  | here (node : NodeId) : Connected g node node
  | step {u v w : NodeId} (joined : g.adjacent u v = true) (onward : Connected g v w) :
      Connected g u w

/-- Nodes with their labels. -/
abbrev Labelling := List (NodeId × NodeId)

/-- The label of a node. -/
def Labelling.label (labels : Labelling) (node : NodeId) : NodeId :=
  ((labels.find? fun entry => entry.1 = node).map Prod.snd).getD node

/-- Gives one label to every node that carries another. -/
def Labelling.relabel (labels : Labelling) (old new : NodeId) : Labelling :=
  labels.map fun (node, label) => (node, if label = old then new else label)

/-- Merges the labels at the two ends of an edge. -/
def Labelling.merge (labels : Labelling) (e : Edge) : Labelling :=
  labels.relabel (labels.label e.target) (labels.label e.source)

/-- The labels of all nodes once every edge has merged its ends. -/
def componentLabels (g : Graph) : Labelling :=
  g.edges.foldl Labelling.merge (g.nodes.map fun node => (node, node))

/-- One node of every component. -/
def representatives (g : Graph) : List NodeId :=
  (g.componentLabels.filter fun (node, label) => node = label).map Prod.fst

/-- The number of connected components. -/
def componentCount (g : Graph) : Nat := g.representatives.length

/-- Walks can be joined. -/
theorem Connected.trans {g : Graph} {u v w : NodeId} (first : g.Connected u v)
    (second : g.Connected v w) : g.Connected u w := by
  induction first with
  | here => exact second
  | step joined _ ih => exact .step joined (ih second)

/-- Walks can be turned round. -/
theorem Connected.symm {g : Graph} {u v : NodeId} (walk : g.Connected u v) :
    g.Connected v u := by
  induction walk with
  | here node => exact .here node
  | step joined _ ih =>
    exact ih.trans (.step (by rw [adjacent_comm]; exact joined) (.here _))

end Multigraph.Graph
