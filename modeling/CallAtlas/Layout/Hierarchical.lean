import CallAtlas.Layout.Layers
import CallAtlas.Layout.NodeSize
import Std.Data.HashMap.Basic

/-!
# Nodes in layers

Each layer is a row of boxes, as wide as they and the gaps between them are, in the
middle of the widest layer. The layers follow one another in the direction that is
set; thin boxes stand in the middle of their layer.
-/

namespace CallAtlas

variable {α : Type} [Measure α]

namespace Hierarchical

open CallAtlas.Measure

/-! ## The graph -/

/-- The first node with each id. -/
def indexOf (nodes : List (Node α)) : Std.HashMap String Nat :=
  nodes.zipIdx.foldl (fun known (n, i) => known.insertIfNew n.id i) {}

/-- The edges between different nodes. -/
def joined (nodes : List (Node α)) (edges : List Edge) : List (Nat × Nat) :=
  let index := indexOf nodes
  edges.filterMap fun e => do
    let s ← index[e.source]?
    let t ← index[e.target]?
    if s = t then none else some (s, t)

/-- The graph that the edges make of the nodes. -/
def digraph (nodes : List (Node α)) (edges : List Edge) : Digraph :=
  .ofEdges nodes.length (joined nodes edges)

/-- The graph without cycles. -/
def acyclic (nodes : List (Node α)) (edges : List Edge) : Digraph :=
  (digraph nodes edges).unlooped

/-- The rank of each node. -/
def ranks (nodes : List (Node α)) (edges : List Edge) : Array Nat :=
  (acyclic nodes edges).ranks Digraph.sorted?

/-- The layers of the nodes. -/
def layers (nodes : List (Node α)) (edges : List Edge) : List (List Nat) :=
  (Layers.ofDigraph (acyclic nodes edges) (ranks nodes edges)).rows.toList

/-! ## Places -/

/-- The size of a node along its layer and across it. -/
structure Extent (α : Type) where
  along : α
  across : α
  deriving Inhabited, Repr

/-- The extent of a node in a direction. -/
def extentOf (s : LayoutSettings α) (n : Node α) : Extent α :=
  let size := NodeSize.current s n
  if s.direction.isHorizontal then ⟨size.height, size.width⟩ else ⟨size.width, size.height⟩

/-- A layer with its nodes and their extents. -/
abbrev Row (α : Type) := List (Nat × Extent α)

/-- The length of a layer. -/
def span (s : LayoutSettings α) (row : Row α) : α :=
  sum (row.map (·.2.along)) + s.nodeGap * ofNat (row.length - 1)

/-- How thick a layer is. -/
def thickness (row : Row α) : α := largest (row.map (·.2.across))

/-- The length of all layers across. -/
def totalDepth (s : LayoutSettings α) (rows : List (Row α)) : α :=
  sum (rows.map thickness) + s.rankGap * ofNat (rows.length - 1)

/-- The place of a node across the layers, from the place of its layer. -/
def acrossAt (s : LayoutSettings α) (total depth thick size : α) : α :=
  let across := depth + half (thick - size)
  if s.direction.isReversed then total - across - size else across

/-- The position of a place. -/
def positionAt (s : LayoutSettings α) (along across : α) : Position α :=
  if s.direction.isHorizontal then ⟨across, along⟩ else ⟨along, across⟩

/-- Places the nodes of a layer from `along` on. -/
def placeRow (s : LayoutSettings α) (total depth thick : α) (along : α) :
    Row α → List (Nat × Position α)
  | [] => []
  | (n, extent) :: rest =>
    (n, positionAt s along (acrossAt s total depth thick extent.across)) ::
      placeRow s total depth thick (along + (extent.along + s.nodeGap)) rest

/-- Places the nodes of all layers from `depth` on. -/
def placeRows (s : LayoutSettings α) (widest total depth : α) :
    List (Row α) → List (Nat × Position α)
  | [] => []
  | row :: rest =>
    placeRow s total depth (thickness row) (half (widest - span s row)) row ++
      placeRows s widest total (depth + (thickness row + s.rankGap)) rest

/-- The layers with the extents of their nodes. -/
def rowsOf (s : LayoutSettings α) (nodes : List (Node α)) (layers : List (List Nat)) :
    List (Row α) :=
  let extents := (nodes.map (extentOf s)).toArray
  layers.map fun layer => layer.map fun n => (n, extents.getD n ⟨zero, zero⟩)

/-- The position of each node. -/
def positions (s : LayoutSettings α) (nodes : List (Node α)) (edges : List Edge) :
    List (Position α) :=
  let rows := rowsOf s nodes (layers nodes edges)
  let placed := placeRows s (largest (rows.map (span s))) (totalDepth s rows) zero rows
  (placed.foldl (fun (at_ : Array (Position α)) (n, p) => at_.setIfInBounds n p)
    (Array.replicate nodes.length .origin)).toList

end Hierarchical

end CallAtlas
