import CallAtlas.Syntax.Tree

/-!
# Walks through a tree

A walk meets the places of a tree in preorder, which is the order of the text. On
its way down it hands a value from each node to its children, and it collects
what places yield.

This file says it by recursion on the tree. The programs walk with a cursor or with
a stack of places, so that the depth of a text is no matter.
-/

namespace CallAtlas

namespace SyntaxTree

variable {σ β : Type}

mutual

/-- What the places of a tree yield in preorder. -/
def collect (hand : σ → Place → σ) (yield : σ → Place → Option β) (s : σ) (above : List Crumb)
    (t : SyntaxTree) : List β :=
  match t with
  | node i cs =>
    let p : Place := ⟨node i cs, above⟩
    (yield (hand s p) p).toList ++ collectIn hand yield (hand s p) (node i cs) above [] cs

/-- What the places under some children of a node yield. -/
def collectIn (hand : σ → Place → σ) (yield : σ → Place → Option β) (s : σ)
    (parent : SyntaxTree) (above : List Crumb) (before : List SyntaxTree)
    (cs : List SyntaxTree) : List β :=
  match cs with
  | [] => []
  | c :: rest =>
    collect hand yield s (⟨parent, before⟩ :: above) c ++
      collectIn hand yield s parent above (c :: before) rest

end

mutual

/-- The number of nodes of a tree. -/
def nodeCount (t : SyntaxTree) : Nat :=
  match t with
  | node _ cs => nodeCountIn cs + 1

/-- The number of nodes of some trees. -/
def nodeCountIn (cs : List SyntaxTree) : Nat :=
  match cs with
  | [] => 0
  | c :: rest => nodeCount c + nodeCountIn rest

end

/-- The equation of `nodeCount` for a tree that is not taken apart. -/
theorem nodeCount_eq (t : SyntaxTree) : t.nodeCount = nodeCountIn t.children + 1 := by
  cases t
  rfl

/-- All places of a tree in preorder. -/
def visits (t : SyntaxTree) : List Place := t.collect (fun _ _ => ()) (fun _ p => some p) () []

/-- Adds what a place yields. -/
def note (found : Array β) : Option β → Array β
  | some b => found.push b
  | none => found

end SyntaxTree

end CallAtlas
