import CallAtlas.Graph.Basic
import Std.Data.HashSet.Basic

/-!
# Parts of graphs

A part of a graph keeps some nodes and the edges between them: the nodes that pass a
filter, or the exported functions with the functions that they call.
-/

namespace CallAtlas

variable {α : Type}

/-- What a node must be to be kept. -/
structure NodeFilter where
  exportedOnly : Bool
  asyncOnly : Bool
  methodsOnly : Bool
  minComplexity : Option Nat
  maxComplexity : Option Nat
  deriving DecidableEq, Inhabited, Repr

namespace NodeFilter

/-- The filter that all nodes pass. -/
def all : NodeFilter := ⟨false, false, false, none, none⟩

/-- Whether a filter asks for nothing. -/
def isEmpty (f : NodeFilter) : Bool := f == all

/-- Whether a node passes a filter. -/
def keeps (f : NodeFilter) (n : Node α) : Bool :=
  (!f.exportedOnly || n.function.isExported) &&
  (!f.asyncOnly || n.function.isAsync) &&
  (!f.methodsOnly || n.function.isMethod) &&
  f.minComplexity.all (· ≤ n.complexity) &&
  f.maxComplexity.all (n.complexity ≤ ·)

end NodeFilter

namespace CallGraph

/-- The nodes with some ids and the edges between them. -/
def restrict (g : CallGraph α) (ids : Std.HashSet String) : CallGraph α :=
  ⟨g.nodes.filter fun n => ids.contains n.id,
    g.edges.filter fun e => ids.contains e.source && ids.contains e.target⟩

/-- The ids of some nodes. -/
def idsOf (nodes : List (Node α)) : Std.HashSet String := .ofList (nodes.map Node.id)

/-- The part of a graph whose nodes pass a filter. -/
def filter (f : NodeFilter) (g : CallGraph α) : CallGraph α :=
  g.restrict (idsOf (g.nodes.filter f.keeps))

/-- The exported functions and those that they call. -/
def simplify (g : CallGraph α) : CallGraph α :=
  let exported := idsOf (g.nodes.filter (·.function.isExported))
  let called := (g.edges.filter fun e => exported.contains e.source).map Edge.target
  g.restrict (exported.insertMany called)

end CallGraph

end CallAtlas
