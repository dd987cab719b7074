import CallAtlas.Layout.Digraph
import CallAtlas.Number.Basic

/-!
# Layers

The numbers of a graph in layers, one per rank, each layer in an order that keeps
numbers near those that they are joined to.
-/

namespace CallAtlas

/-- Layers of numbers, and the place of each number in its layer. -/
structure Layers where
  rows : Array (List Nat)
  slots : Array Nat
  deriving Inhabited, Repr

namespace Layers

/-- Puts the numbers of a layer at its places. -/
def seat (slots : Array Nat) (row : List Nat) : Array Nat :=
  row.zipIdx.foldl (fun slots (n, i) => slots.setIfInBounds n i) slots

/-- The layers of some ranks, each in the order of the numbers. -/
def ofRanks (ranks : Array Nat) : Layers :=
  let count := ranks.foldl max 0 + 1
  let rows := (List.range ranks.size).foldr
    (fun n (rows : Array (List Nat)) => rows.modify (ranks.getD n 0) (n :: ·))
    (Array.replicate count [])
  ⟨rows, rows.foldl seat (Array.replicate ranks.size 0)⟩

/-- A mean: a sum and the count of what was summed. -/
structure Mean where
  sum : Nat
  count : Nat
  deriving DecidableEq, Inhabited, Repr

/-- Whether a mean is below another one, or the same. -/
def Mean.le (a b : Mean) : Bool := a.sum * b.count ≤ b.sum * a.count

/-- The mean place of the neighbours of a number; without neighbours its own. -/
def meanSlot (slots : Array Nat) (neighbours : Digraph) (n : Nat) : Mean :=
  match neighbours.next n with
  | [] => ⟨slots.getD n 0, 1⟩
  | ms => ⟨Number.total (ms.map fun m => slots.getD m 0), ms.length⟩

/-- Whether a number with some mean and place comes before another one. -/
def precedes (a b : Mean × Nat × Nat) : Bool :=
  if a.1.le b.1 && b.1.le a.1 then a.2.1 ≤ b.2.1 else a.1.le b.1

/-- Orders a layer by the means of the places of neighbours. -/
def orderRow (neighbours : Digraph) (l : Layers) (r : Nat) : Layers :=
  let keyed := (l.rows.getD r []).map fun n =>
    (meanSlot l.slots neighbours n, l.slots.getD n 0, n)
  let row := (keyed.mergeSort precedes).map fun (_, _, n) => n
  ⟨l.rows.setIfInBounds r row, seat l.slots row⟩

/-- Orders all layers but the first by their predecessors, from the top down. -/
def sweepDown (predecessors : Digraph) (l : Layers) : Layers :=
  (List.range (l.rows.size - 1)).foldl (fun l r => orderRow predecessors l (r + 1)) l

/-- Orders all layers but the last by their successors, from the bottom up. -/
def sweepUp (successors : Digraph) (l : Layers) : Layers :=
  (List.range (l.rows.size - 1)).reverse.foldl (orderRow successors) l

/-- How often the layers are ordered from the top down and up again. -/
def rounds : Nat := 2

/-- The layers of a graph with some ranks. -/
def ofDigraph (g : Digraph) (ranks : Array Nat) : Layers :=
  let predecessors := g.reversed
  (List.range rounds).foldl (fun l _ => sweepUp g (sweepDown predecessors l)) (ofRanks ranks)

end Layers

end CallAtlas
