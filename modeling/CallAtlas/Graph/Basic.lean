import CallAtlas.Function.Basic
import CallAtlas.Layout.Measure
import CallAtlas.Number.Basic

/-!
# Graphs of functions

A node shows a function, or is the header of a group of nodes. An edge joins two
nodes by their ids and stands for all calls of the one function by the other. Where
nodes are and how large they are is decided by layouts.
-/

namespace CallAtlas

/-- What a node is shown as. -/
inductive NodeRole where
  | function
  | exported
  | async
  | method
  /-- The label of a group of nodes. -/
  | header
  deriving DecidableEq, Inhabited, Repr

namespace NodeRole

/-- The written name. -/
def name : NodeRole → String
  | function => "function"
  | exported => "exported"
  | async => "async"
  | method => "method"
  | header => "header"

end NodeRole

/-- A rough class of functions. -/
inductive Category where
  | exported
  | async
  | method
  /-- Without parameters. -/
  | simple
  /-- With many parameters. -/
  | complex
  | function
  deriving DecidableEq, Inhabited, Repr

namespace Category

/-- The written name. -/
def name : Category → String
  | exported => "exported"
  | async => "async"
  | method => "method"
  | simple => "simple"
  | complex => "complex"
  | function => "function"

end Category

/-- The place of the upper left corner of a box. -/
structure Position (α : Type) where
  x : α
  y : α
  deriving DecidableEq, Inhabited, Repr

/-- A node of a graph. -/
structure Node (α : Type) where
  id : String
  role : NodeRole
  position : Position α
  width : Option α
  height : Option α
  /-- Whether the node can be selected and moved. -/
  interactive : Bool
  /-- The function that the node shows; its name is the label of the node. -/
  function : FunctionInfo
  complexity : Nat
  category : Category
  deriving DecidableEq, Inhabited, Repr

/-- The calls of one function by another. -/
structure Edge where
  id : String
  source : String
  target : String
  callCount : Nat
  animated : Bool
  label : Option String
  deriving DecidableEq, Inhabited, Repr

/-- A graph of functions. -/
structure CallGraph (α : Type) where
  nodes : List (Node α)
  edges : List Edge
  deriving DecidableEq, Inhabited, Repr

variable {α : Type}

namespace Position

/-- The place where both coordinates are zero. -/
def origin [Measure α] : Position α := ⟨Measure.zero, Measure.zero⟩

/-- Whether both coordinates can be reckoned with. -/
def isFinite [Measure α] (p : Position α) : Bool := Measure.isFinite p.x && Measure.isFinite p.y

end Position

namespace Node

/-- The text that a node shows. -/
def label (n : Node α) : String := n.function.name

/-- Whether a node is the label of a group. -/
def isHeader (n : Node α) : Bool := n.role == .header

/-- The node of a function, not yet placed. -/
def ofFunction [Measure α] (id : String) (role : NodeRole) (f : FunctionInfo)
    (complexity : Nat) (category : Category) : Node α :=
  { id, role, position := .origin, width := none, height := none, interactive := true
    function := f, complexity, category }

/-- The label of a group. -/
def header [Measure α] (id label : String) : Node α :=
  { ofFunction id .header { FunctionInfo.named label with returnType := "" } 0 .simple with
      interactive := false }

end Node

/-- Numbers that sum up a graph. Headers do not count. -/
structure GraphStats where
  nodes : Nat
  edges : Nat
  exported : Nat
  asyncFunctions : Nat
  methods : Nat
  totalCalls : Nat
  maxComplexity : Nat
  deriving DecidableEq, Inhabited, Repr

namespace CallGraph

/-- The graph without nodes. -/
def empty : CallGraph α := ⟨[], []⟩

/-- The first node with an id. -/
def node? (g : CallGraph α) (id : String) : Option (Node α) := g.nodes.find? (·.id == id)

/-- The nodes that show functions. -/
def functionNodes (g : CallGraph α) : List (Node α) := g.nodes.filter (!·.isHeader)

/-- The numbers that sum up a graph. -/
def stats (g : CallGraph α) : GraphStats :=
  let shown := g.functionNodes
  { nodes := shown.length
    edges := g.edges.length
    exported := shown.countP (·.function.isExported)
    asyncFunctions := shown.countP (·.function.isAsync)
    methods := shown.countP (·.function.isMethod)
    totalCalls := Number.total (g.edges.map Edge.callCount)
    maxComplexity := (shown.map Node.complexity).foldl max 0 }

end CallGraph

end CallAtlas
