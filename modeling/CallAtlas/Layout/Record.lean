import CallAtlas.Graph.Record
import CallAtlas.Layout.Box

/-!
# Boxes and settings of layouts as records

How boxes and the settings of a layout are written as JSON and read back. A setting
that is left out has its standard value.
-/

namespace CallAtlas

open Json

variable {α : Type}

namespace Arrangement

/-- The arrangements by their names. -/
def choices : List (String × Arrangement) :=
  [Arrangement.hierarchical, .grid, .circular].map fun a => (a.name, a)

end Arrangement

namespace Direction

/-- The directions by their names. -/
def choices : List (String × Direction) := all.map fun d => (d.name, d)

end Direction

namespace LayoutSettings

/-- The settings of a layout as a record. -/
def toJson (s : LayoutSettings α) : Json α :=
  .obj [("algorithm", (s.arrangement.map fun a => Json.str a.name).getD .null),
    ("direction", .str s.direction.name), ("node_width", .real s.nodeWidth),
    ("node_height", .real s.nodeHeight), ("rank_separation", .real s.rankGap),
    ("node_separation", .real s.nodeGap), ("min_width", .real s.minWidth),
    ("max_width", .real s.maxWidth), ("grid_columns", .nat s.columns)]

/-- Reads the settings of a layout. -/
def ofJson? [Measure α] (c : Conventions α) : Json α → Option (LayoutSettings α) :=
  record? c do
    let s : LayoutSettings α := .standard
    let arrangement ← fieldOr s.arrangement "algorithm" (maybe? (choice? c Arrangement.choices))
    let direction ← fieldOr s.direction "direction" (choice? c Direction.choices)
    let nodeWidth ← fieldOr s.nodeWidth "node_width" measure?
    let nodeHeight ← fieldOr s.nodeHeight "node_height" measure?
    let rankGap ← fieldOr s.rankGap "rank_separation" measure?
    let nodeGap ← fieldOr s.nodeGap "node_separation" measure?
    let minWidth ← fieldOr s.minWidth "min_width" measure?
    let maxWidth ← fieldOr s.maxWidth "max_width" measure?
    let columns ← fieldOr s.columns "grid_columns" size?
    return ⟨arrangement, direction, nodeWidth, nodeHeight, rankGap, nodeGap, minWidth, maxWidth,
      columns⟩

end LayoutSettings

namespace Box

/-- A box as a record. -/
def toJson (b : Box α) : Json α :=
  .obj [("x", .real b.x), ("y", .real b.y), ("width", .real b.width), ("height", .real b.height)]

/-- Reads a box. -/
def ofJson? [Measure α] (c : Conventions α) : Json α → Option (Box α) :=
  record? c do
    let x ← field "x" measure?
    let y ← field "y" measure?
    let width ← field "width" measure?
    let height ← field "height" measure?
    return { x, y, width, height }

end Box

end CallAtlas
