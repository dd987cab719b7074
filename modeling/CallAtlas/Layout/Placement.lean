import CallAtlas.Layout.Circle
import CallAtlas.Layout.Grid
import CallAtlas.Layout.Hierarchical

/-!
# Layouts of graphs

A layout gives each node a size and a position. It leaves out the headers of an
earlier layout; a grid adds its own behind the nodes. Graphs that are too large for
an arrangement are arranged in layers.
-/

namespace CallAtlas

variable {α : Type}

namespace Layout

/-- The most nodes that are arranged on a circle. -/
def maxCircleNodes : Nat := 6

/-- The most nodes that are arranged in a grid. -/
def maxGridNodes : Nat := 400

/-- The position of a node that is alone. -/
def alone [Measure α] : Position α := ⟨Measure.ofNat 250, Measure.ofNat 150⟩

/-- The arrangement of `count` nodes. -/
def arrangementFor (s : LayoutSettings α) (count : Nat) : Arrangement :=
  match s.arrangement.getD .grid with
  | .hierarchical => .hierarchical
  | .grid => if s.columns = 0 || maxGridNodes < count then .hierarchical else .grid
  | .circular => if maxCircleNodes < count then .hierarchical else .circular

/-- Nodes at some positions. -/
def moved (nodes : List (Node α)) (positions : List (Position α)) : List (Node α) :=
  nodes.zipWith (fun n p => { n with position := p }) positions

/-- A node with its size. -/
def sized [Measure α] (s : LayoutSettings α) (n : Node α) : Node α :=
  let size := NodeSize.ofNode s n
  { n with width := some size.width, height := some size.height }

/-- A node whose position cannot be reckoned with goes to the origin. -/
def grounded [Measure α] (n : Node α) : Node α :=
  if n.position.isFinite then n else { n with position := .origin }

variable [AngularMeasure α]

/-- Nodes with sizes at their places. -/
def arranged (s : LayoutSettings α) (nodes : List (Node α)) (edges : List Edge) :
    List (Node α) :=
  match arrangementFor s nodes.length with
  | .hierarchical => moved nodes (Hierarchical.positions s nodes edges)
  | .grid =>
    let sections := Grid.sectionsOf s nodes
    moved nodes (Grid.positions nodes.length sections) ++ sections.map Grid.Section.header
  | .circular => moved nodes (Circle.positions s nodes)

/-- Sizes and places for all nodes. -/
def nodes (s : LayoutSettings α) (nodes : List (Node α)) (edges : List Edge) : List (Node α) :=
  match (nodes.filter (!·.isHeader)).map (sized s) with
  | [] => []
  | [n] => [{ n with position := alone }]
  | shown => (arranged s shown edges).map grounded

/-- Sizes and places for the nodes of a graph. -/
def graph (s : LayoutSettings α) (g : CallGraph α) : CallGraph α :=
  ⟨nodes s g.nodes g.edges, g.edges⟩

end Layout

end CallAtlas
