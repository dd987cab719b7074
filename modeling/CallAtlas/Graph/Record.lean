import CallAtlas.Function.Record
import CallAtlas.Graph.Select

/-!
# Graphs as records

How graphs, their numbers and filters are written as JSON and read back.
-/

namespace CallAtlas

open Json

variable {α : Type}

namespace NodeRole

/-- The roles by their names. -/
def choices : List (String × NodeRole) :=
  [NodeRole.function, .exported, .async, .method, .header].map fun r => (r.name, r)

end NodeRole

namespace Category

/-- The categories by their names. -/
def choices : List (String × Category) :=
  [Category.exported, .async, .method, .simple, .complex, .function].map fun c => (c.name, c)

end Category

namespace Position

/-- A position as a record. -/
def toJson (p : Position α) : Json α := .obj [("x", .real p.x), ("y", .real p.y)]

/-- Reads a position. -/
def ofJson? [Measure α] (c : Conventions α) : Json α → Option (Position α) :=
  record? c do
    let x ← field "x" measure?
    let y ← field "y" measure?
    return { x, y }

end Position

namespace Node

/-- What a node shows, as a record. -/
def contentToJson (n : Node α) : Json α :=
  .obj (("label", .str n.label) :: n.function.members ++
    [("complexity", .nat n.complexity), ("category", .str n.category.name)])

/-- A node as a record. -/
def toJson (n : Node α) : Json α :=
  .obj ([("id", .str n.id), ("type", .str n.role.name), ("position", n.position.toJson)] ++
    optionalMember "width" (n.width.map .real) ++ optionalMember "height" (n.height.map .real) ++
    [("interactive", .bool n.interactive), ("data", n.contentToJson)])

/-- Reads what a node shows: its function, complexity and category. -/
def contentOfJson? (c : Conventions α) : Json α → Option (FunctionInfo × Nat × Category) :=
  record? c do
    let function ← FunctionInfo.fields c "label"
    let complexity ← field "complexity" score?
    let category ← field "category" (choice? c Category.choices)
    return (function, complexity, category)

/-- Reads a node. -/
def ofJson? [Measure α] (c : Conventions α) : Json α → Option (Node α) :=
  record? c do
    let id ← field "id" string?
    let role ← field "type" (choice? c NodeRole.choices)
    let position ← field "position" (Position.ofJson? c)
    let width ← fieldOr none "width" (maybe? measure?)
    let height ← fieldOr none "height" (maybe? measure?)
    let interactive ← fieldOr true "interactive" bool?
    let (function, complexity, category) ← field "data" (contentOfJson? c)
    return { id, role, position, width, height, interactive, function, complexity, category }

end Node

namespace Edge

/-- An edge as a record. -/
def toJson (e : Edge) : Json α :=
  .obj ([("id", .str e.id), ("source", .str e.source), ("target", .str e.target),
    ("callCount", .nat e.callCount), ("animated", .bool e.animated)] ++
    optionalMember "label" (e.label.map .str))

/-- Reads an edge. -/
def ofJson? (c : Conventions α) : Json α → Option Edge :=
  record? c do
    let id ← field "id" string?
    let source ← field "source" string?
    let target ← field "target" string?
    let callCount ← field "callCount" size?
    let animated ← field "animated" bool?
    let label ← fieldOr none "label" (maybe? string?)
    return { id, source, target, callCount, animated, label }

end Edge

namespace CallGraph

/-- A graph as a record. -/
def toJson (g : CallGraph α) : Json α :=
  .obj [("nodes", .arr (g.nodes.map Node.toJson)), ("edges", .arr (g.edges.map Edge.toJson))]

/-- Reads a graph. -/
def ofJson? [Measure α] (c : Conventions α) : Json α → Option (CallGraph α) :=
  record? c do
    let nodes ← field "nodes" (list? (Node.ofJson? c))
    let edges ← field "edges" (list? (Edge.ofJson? c))
    return { nodes, edges }

end CallGraph

namespace GraphStats

/-- The numbers of a graph as a record. -/
def toJson (s : GraphStats) : Json α :=
  .obj [("nodes", .nat s.nodes), ("edges", .nat s.edges), ("exported", .nat s.exported),
    ("asyncFunctions", .nat s.asyncFunctions), ("methods", .nat s.methods),
    ("totalCalls", .nat s.totalCalls), ("maxComplexity", .nat s.maxComplexity)]

end GraphStats

namespace NodeFilter

/-- A number or `null`. -/
def limitToJson (limit : Option Nat) : Json α := (limit.map Json.nat).getD .null

/-- A filter as a record. -/
def toJson (f : NodeFilter) : Json α :=
  .obj [("exportedOnly", .bool f.exportedOnly), ("asyncOnly", .bool f.asyncOnly),
    ("methodsOnly", .bool f.methodsOnly), ("minComplexity", limitToJson f.minComplexity),
    ("maxComplexity", limitToJson f.maxComplexity)]

/-- Reads a filter. What is left out asks for nothing. -/
def ofJson? (c : Conventions α) : Json α → Option NodeFilter :=
  record? c do
    let exportedOnly ← fieldOr false "exportedOnly" bool?
    let asyncOnly ← fieldOr false "asyncOnly" bool?
    let methodsOnly ← fieldOr false "methodsOnly" bool?
    let minComplexity ← fieldOr none "minComplexity" (maybe? score?)
    let maxComplexity ← fieldOr none "maxComplexity" (maybe? score?)
    return { exportedOnly, asyncOnly, methodsOnly, minComplexity, maxComplexity }

end NodeFilter

end CallAtlas
