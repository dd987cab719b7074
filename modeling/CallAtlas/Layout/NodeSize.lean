import CallAtlas.Graph.Basic
import CallAtlas.Layout.Settings

/-!
# Sizes of nodes

A node is as wide as the widest of its lines of text, within the bounds that are
set, and as high as its lines need.
-/

namespace CallAtlas

variable {α : Type} [Measure α]

/-- Width and height of a box. -/
structure Size (α : Type) where
  width : α
  height : α
  deriving DecidableEq, Inhabited, Repr

namespace NodeSize

open CallAtlas.Measure

/-! ## Lengths -/

/-- The width of a character of a label. -/
def labelChar : α := ofNat 8

/-- The width of a character of any other line. -/
def detailChar : α := ofNat 13 / ofNat 2

/-- The room at the sides, both together. -/
def padding : α := ofNat 32

/-- The mark of an asynchronous function. -/
def asyncBadge : α := ofNat 44

/-- The mark of an exported function. -/
def exportedBadge : α := ofNat 56

/-- The mark with the complexity of a function. -/
def complexityBadge : α := ofNat 36

/-- The least complexity that is shown. -/
def shownComplexity : Nat := 5

/-- The height of the label. -/
def titleHeight : α := ofNat 40

/-- The height of a line with a parameter. -/
def parameterHeight : α := ofNat 18

/-- The height of the line with the return type. -/
def returnHeight : α := ofNat 20

/-- The most parameters that are shown. -/
def maxParameterRows : Nat := 6

/-- The least height of a node. -/
def minHeight : α := ofNat 60

/-- The greatest height of a node. -/
def maxHeight : α := ofNat 240

/-- The height of the label of a group. -/
def headerHeight : α := ofNat 36

/-! ## Sizes -/

/-- The width of a text. -/
def textWidth (text : String) (char : α) : α := ofNat text.length * char

/-- A number within bounds. If the lower bound is above the upper one, it counts. -/
def bounded (x low high : α) : α := smaller (larger x low) (larger high low)

/-- The width of the marks behind a label. -/
def badges (n : Node α) : α :=
  let width := if n.function.isAsync then zero + asyncBadge else zero
  let width := if n.function.isExported then width + exportedBadge else width
  if shownComplexity ≤ n.complexity then width + complexityBadge else width

/-- The width of the widest line of a node. -/
def contentWidth (n : Node α) : α :=
  let title := textWidth n.label labelChar + badges n
  let parameter := largest (n.function.parameters.map fun p => textWidth p.display detailChar)
  let returned := textWidth n.function.returnType detailChar + ofNat 2 * detailChar
  larger (larger title parameter) returned

/-- The size of a node. -/
def ofNode (s : LayoutSettings α) (n : Node α) : Size α :=
  if n.isHeader then ⟨larger (textWidth n.label labelChar + padding) s.minWidth, headerHeight⟩
  else
    let rows := ofNat (min n.function.parameters.length maxParameterRows)
    ⟨bounded (contentWidth n + padding) s.minWidth s.maxWidth,
      bounded (titleHeight + rows * parameterHeight + returnHeight) minHeight maxHeight⟩

/-- The size that a node has, or else the size that is set. -/
def current (s : LayoutSettings α) (n : Node α) : Size α :=
  ⟨n.width.getD s.nodeWidth, n.height.getD s.nodeHeight⟩

end NodeSize

end CallAtlas
