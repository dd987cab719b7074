import CallAtlas.Layout.Measure
import CallAtlas.Text.Case

/-!
# Settings of layouts

How nodes are arranged, in which direction ranks go on, and the lengths that hold
nodes apart.
-/

namespace CallAtlas

/-- A way to arrange nodes. -/
inductive Arrangement where
  /-- In layers, callers before callees. -/
  | hierarchical
  /-- In groups, row by row. -/
  | grid
  /-- On a circle. -/
  | circular
  deriving DecidableEq, Inhabited, Repr

namespace Arrangement

/-- The written name. -/
def name : Arrangement → String
  | hierarchical => "hierarchical"
  | grid => "grid"
  | circular => "circular"

/-- The arrangement that a name in capital or small letters means. -/
def ofName? (text : String) : Except String Arrangement :=
  let text := Case.toSmall text
  if ["hierarchical", "dagre", "layered"].contains text then .ok hierarchical
  else if ["grid", "matrix"].contains text then .ok grid
  else if ["circular", "circle"].contains text then .ok circular
  else .error ("unknown layout algorithm: " ++ text)

end Arrangement

/-- The direction from callers to callees. -/
inductive Direction where
  | topBottom
  | bottomTop
  | leftRight
  | rightLeft
  deriving DecidableEq, Inhabited, Repr

namespace Direction

/-- The written name. -/
def name : Direction → String
  | topBottom => "TB"
  | bottomTop => "BT"
  | leftRight => "LR"
  | rightLeft => "RL"

/-- All directions. -/
def all : List Direction := [topBottom, bottomTop, leftRight, rightLeft]

/-- Whether ranks go on along the `x` axis. -/
def isHorizontal : Direction → Bool
  | topBottom | bottomTop => false
  | leftRight | rightLeft => true

/-- Whether ranks go on towards smaller coordinates. -/
def isReversed : Direction → Bool
  | topBottom | leftRight => false
  | bottomTop | rightLeft => true

/-- The direction that a name in capital or small letters means. -/
def ofName? (text : String) : Except String Direction :=
  let text := Case.toCapital text
  if text = "TD" then .ok topBottom
  else match all.find? (·.name == text) with
    | some d => .ok d
    | none => .error ("unknown direction: " ++ text)

end Direction

/-- The settings of a layout. -/
structure LayoutSettings (α : Type) where
  /-- Without an arrangement one is chosen. -/
  arrangement : Option Arrangement
  direction : Direction
  /-- The width of nodes that have none. -/
  nodeWidth : α
  /-- The height of nodes that have none. -/
  nodeHeight : α
  /-- The distance between ranks. -/
  rankGap : α
  /-- The distance between nodes. -/
  nodeGap : α
  minWidth : α
  maxWidth : α
  /-- The number of nodes in a row of the grid. -/
  columns : Nat
  deriving DecidableEq, Inhabited, Repr

namespace LayoutSettings

/-- The settings where nothing is said. -/
def standard {α : Type} [Measure α] : LayoutSettings α :=
  { arrangement := none
    direction := .topBottom
    nodeWidth := Measure.ofNat 220
    nodeHeight := Measure.ofNat 80
    rankGap := Measure.ofNat 100
    nodeGap := Measure.ofNat 60
    minWidth := Measure.ofNat 180
    maxWidth := Measure.ofNat 420
    columns := 4 }

end LayoutSettings

end CallAtlas
