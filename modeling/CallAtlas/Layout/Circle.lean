import CallAtlas.Layout.NodeSize

/-!
# Nodes on a circle

The middles of the nodes stand on a circle, clockwise from the top, which is large
enough for all of them.
-/

namespace CallAtlas

variable {α : Type} [AngularMeasure α]

namespace Circle

open CallAtlas.Measure

/-- The least radius. -/
def minRadius : α := ofNat 150

/-- The radius of the circle for `count` nodes. -/
def radius (s : LayoutSettings α) (count : Nat) (maxWidth : α) : α :=
  larger (ofNat count * (maxWidth + s.nodeGap) / (ofNat 2 * AngularMeasure.halfTurn)) minRadius

/-- The angle of the `index`-th of `count` nodes. -/
def angle (count index : Nat) : α :=
  ofNat 2 * AngularMeasure.halfTurn * ofNat index / ofNat count - half AngularMeasure.halfTurn

/-- The position of each node. -/
def positions (s : LayoutSettings α) (nodes : List (Node α)) : List (Position α) :=
  let sizes := nodes.map (NodeSize.current s)
  let maxWidth := largest (sizes.map (·.width))
  let maxHeight := largest (sizes.map (·.height))
  let count := nodes.length
  let r := radius s count maxWidth
  let centerX := r + half maxWidth
  let centerY := r + half maxHeight
  sizes.zipIdx.map fun (size, i) =>
    let a := angle count i
    ⟨centerX + r * AngularMeasure.cosine a - half size.width,
      centerY + r * AngularMeasure.sine a - half size.height⟩

end Circle

end CallAtlas
