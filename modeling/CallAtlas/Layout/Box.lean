import CallAtlas.Layout.NodeSize

/-!
# Boxes

The box around some nodes, and moving them to the middle of another box.
-/

namespace CallAtlas

variable {α : Type} [Measure α]

/-- A box by its upper left corner and its size. -/
structure Box (α : Type) where
  x : α
  y : α
  width : α
  height : α
  deriving DecidableEq, Inhabited, Repr

namespace Box

open CallAtlas.Measure

/-- The box without size at the origin. -/
def empty : Box α := ⟨zero, zero, zero, zero⟩

/-- The middle of a box. -/
def center (b : Box α) : Position α := ⟨b.x + half b.width, b.y + half b.height⟩

/-- The upper left and the lower right corner of something. -/
structure Corners (α : Type) where
  left : α
  top : α
  right : α
  bottom : α

/-- The corners of a node. -/
def Corners.ofNode (n : Node α) : Corners α :=
  let size := NodeSize.current .standard n
  ⟨n.position.x, n.position.y, n.position.x + size.width, n.position.y + size.height⟩

/-- The corners around two things. -/
def Corners.join (a b : Corners α) : Corners α :=
  ⟨smaller a.left b.left, smaller a.top b.top, larger a.right b.right, larger a.bottom b.bottom⟩

/-- The smallest box around some nodes. -/
def around : List (Node α) → Box α
  | [] => empty
  | n :: rest =>
    let c := (rest.map Corners.ofNode).foldl Corners.join (.ofNode n)
    ⟨c.left, c.top, c.right - c.left, c.bottom - c.top⟩

/-- Moves nodes so that the middle of the box around them is that of another box. -/
def centered (nodes : List (Node α)) (target : Box α) : List (Node α) :=
  let start := (around nodes).center
  let goal := target.center
  let dx := goal.x - start.x
  let dy := goal.y - start.y
  nodes.map fun n => { n with position := ⟨n.position.x + dx, n.position.y + dy⟩ }

end Box

end CallAtlas
