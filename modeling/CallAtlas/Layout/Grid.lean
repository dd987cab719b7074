import CallAtlas.Layout.Group
import CallAtlas.Layout.NodeSize

/-!
# Nodes in a grid

The nodes group by group, each group in rows of cells of one size, in the order of
their labels. Above each group stands a header.
-/

namespace CallAtlas

variable {α : Type} [Measure α]

namespace Grid

open CallAtlas.Measure

/-- A node in its group. -/
structure Member where
  group : NodeGroup
  label : String
  /-- The place of the node among all nodes. -/
  index : Nat
  deriving DecidableEq, Inhabited, Repr

/-- Whether one member is shown before another. -/
def Member.precedes (a b : Member) : Bool :=
  if a.group.place ≠ b.group.place then a.group.place < b.group.place
  else if a.label ≠ b.label then a.label < b.label
  else a.index ≤ b.index

/-- The nodes in the order in which they are shown. -/
def members (nodes : List (Node α)) : List Member :=
  let listed := nodes.zipIdx.map fun (n, i) => Member.mk (.ofFunction n.function) n.label i
  listed.mergeSort Member.precedes

/-- The members group by group. -/
def groups (members : List Member) : List (List Member) :=
  members.splitBy fun a b => a.group == b.group

/-- The measures of a grid. -/
structure Mesh (α : Type) where
  columns : Nat
  pitchX : α
  pitchY : α
  nodeGap : α
  rankGap : α
  deriving Inhabited, Repr

/-- The mesh whose cells hold every node. -/
def Mesh.ofNodes (s : LayoutSettings α) (nodes : List (Node α)) : Mesh α :=
  let sizes := nodes.map (NodeSize.current s)
  { columns := max s.columns 1
    pitchX := largest (sizes.map (·.width)) + s.nodeGap
    pitchY := largest (sizes.map (·.height)) + s.nodeGap
    nodeGap := s.nodeGap
    rankGap := s.rankGap }

/-- The header of a group of `count` nodes at a height. -/
def headerOf (m : Mesh α) (group : NodeGroup) (count : Nat) (y : α) : Node α :=
  let header : Node α := .header ("header-" ++ group.slug) s!"{group.title} ({count})"
  let width := m.pitchX * ofNat (min m.columns count) - m.nodeGap
  { header with width := some width, height := some NodeSize.headerHeight, position := ⟨zero, y⟩ }

/-- The cell of the `slot`-th node of a group whose cells begin at a height. -/
def cell (m : Mesh α) (y : α) (slot : Nat) : Position α :=
  ⟨ofNat (slot % m.columns) * m.pitchX, y + ofNat (slot / m.columns) * m.pitchY⟩

/-- The number of rows that some nodes take. -/
def rowCount (m : Mesh α) (count : Nat) : Nat := (count + m.columns - 1) / m.columns

/-- A header and the places of the nodes below it. -/
structure Section (α : Type) where
  header : Node α
  cells : List (Nat × Position α)

/-- Places groups from a height on. -/
def sections (m : Mesh α) (y : α) : List (List Member) → List (Section α)
  | [] => []
  | [] :: rest => sections m y rest
  | (first :: others) :: rest =>
    let group := first :: others
    let top := y + (NodeSize.headerHeight + half m.nodeGap)
    let cells := group.zipIdx.map fun (a, slot) => (a.index, cell m top slot)
    let below := top + (ofNat (rowCount m group.length) * m.pitchY + half m.rankGap)
    ⟨headerOf m first.group group.length y, cells⟩ :: sections m below rest

/-- The sections of some nodes. -/
def sectionsOf (s : LayoutSettings α) (nodes : List (Node α)) : List (Section α) :=
  sections (.ofNodes s nodes) zero (groups (members nodes))

/-- The position of each node. -/
def positions (count : Nat) (sections : List (Section α)) : List (Position α) :=
  ((sections.flatMap Section.cells).foldl
    (fun (at_ : Array (Position α)) (n, p) => at_.setIfInBounds n p)
    (Array.replicate count .origin)).toList

end Grid

end CallAtlas
