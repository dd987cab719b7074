/-!
# Directed graphs

Directed graphs on the numbers below some size, without loops and without several
edges from one number to another. A search from every number in turn finds the edges
that close cycles and an order of the numbers; turning those edges around leaves a
graph whose edges all go forward in that order.
-/

namespace CallAtlas

/-- A directed graph, as the successors of each number. -/
structure Digraph where
  /-- The successor that was added last comes first. -/
  successors : Array (List Nat)
  deriving Inhabited, Repr

namespace Digraph

/-- The graph without edges. -/
def isolated (size : Nat) : Digraph := ⟨Array.replicate size []⟩

/-- The number of numbers. -/
def size (g : Digraph) : Nat := g.successors.size

/-- The successors of a number. -/
def next (g : Digraph) (u : Nat) : List Nat := g.successors.getD u []

/-- Adds an edge unless it is there. -/
def link (g : Digraph) (edge : Nat × Nat) : Digraph :=
  ⟨g.successors.modify edge.1 fun vs => if vs.contains edge.2 then vs else edge.2 :: vs⟩

/-- The graph with some edges. -/
def ofEdges (size : Nat) (edges : List (Nat × Nat)) : Digraph := edges.foldl link (isolated size)

/-- All edges. -/
def edges (g : Digraph) : List (Nat × Nat) :=
  (List.range g.size).flatMap fun u => (g.next u).map (u, ·)

/-- The graph with all edges turned around. -/
def reversed (g : Digraph) : Digraph :=
  ofEdges g.size (g.edges.map fun (u, v) => (v, u))

/-! ## Searching -/

/-- How far a search is with a number. -/
inductive Mark where
  | unseen
  /-- Entered and not yet left. -/
  | active
  | left
  deriving DecidableEq, Inhabited, Repr

/-- What a search has found. -/
structure Search where
  marks : Array Mark
  /-- Edges to a number that was entered and not yet left. -/
  closing : List (Nat × Nat)
  /-- The numbers that were left, the last first. -/
  order : List Nat
  deriving Inhabited, Repr

namespace Search

/-- The mark of a number. -/
def mark (s : Search) (u : Nat) : Mark := s.marks.getD u .unseen

/-- Enters a number. -/
def enter (s : Search) (u : Nat) : Search := { s with marks := s.marks.setIfInBounds u .active }

/-- Leaves a number. -/
def leave (s : Search) (u : Nat) : Search :=
  { s with marks := s.marks.setIfInBounds u .left, order := u :: s.order }

end Search

/-- Goes on with a search. The stack holds the numbers that are entered, with their
successors that have not been looked at. Each step looks at one or leaves a number. -/
def searchOn (g : Digraph) : Nat → List (Nat × List Nat) → Search → Search
  | 0, _, s => s
  | _, [], s => s
  | fuel + 1, (u, []) :: stack, s => searchOn g fuel stack (s.leave u)
  | fuel + 1, (u, v :: vs) :: stack, s =>
    match s.mark v with
    | .unseen => searchOn g fuel ((v, g.next v) :: (u, vs) :: stack) (s.enter v)
    | .active => searchOn g fuel ((u, vs) :: stack) { s with closing := (u, v) :: s.closing }
    | .left => searchOn g fuel ((u, vs) :: stack) s

/-- More steps than a search can take. -/
def searchFuel (g : Digraph) : Nat := g.size + g.edges.length + 1

/-- Searches from a number unless it was found before. -/
def searchFrom (g : Digraph) (fuel : Nat) (s : Search) (u : Nat) : Search :=
  match s.mark u with
  | .unseen => searchOn g fuel [(u, g.next u)] (s.enter u)
  | _ => s

/-- Searches from every number. -/
def search (g : Digraph) : Search :=
  (List.range g.size).foldl (searchFrom g g.searchFuel)
    ⟨Array.replicate g.size .unseen, [], []⟩

/-- The graph with the edges turned around that close cycles in a search. -/
def turned (g : Digraph) (s : Search) : Digraph :=
  ofEdges g.size (g.edges.map fun (u, v) => if s.closing.contains (u, v) then (v, u) else (u, v))

/-- The graph without cycles: the edges that close cycles in a search are turned around. -/
def unlooped (g : Digraph) : Digraph :=
  let s := g.search
  if s.closing.isEmpty then g else g.turned s

/-- An order of the numbers in which all edges go forward, unless there is a cycle. -/
def sorted? (g : Digraph) : Option (List Nat) :=
  let s := g.search
  if s.closing.isEmpty then some s.order else none

/-! ## Ranks -/

/-- Raises the ranks of the successors of a number above its own. -/
def relax (g : Digraph) (ranks : Array Nat) (u : Nat) : Array Nat :=
  let above := ranks.getD u 0 + 1
  (g.next u).foldl (fun ranks v => ranks.modify v (max · above)) ranks

/-- The ranks of the numbers, raised in some order. -/
def ranksAlong (g : Digraph) (order : List Nat) : Array Nat :=
  order.foldl g.relax (Array.replicate g.size 0)

/-- The rank of each number: the length of the longest way to it. The numbers are taken
in the order that `sort` gives, or one after the other if it gives none. -/
def ranks (sort : Digraph → Option (List Nat)) (g : Digraph) : Array Nat :=
  g.ranksAlong ((sort g).getD (List.range g.size))

end Digraph

end CallAtlas
