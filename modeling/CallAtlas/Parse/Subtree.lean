import CallAtlas.Automaton.Basic
import CallAtlas.Source.Text

/-!
# Subtrees

What the parser builds: one node for every token and every reduction, hidden
ones included. A subtree knows its extent — where the blanks before it begin,
where it begins and where it ends — and what the parser needs to weigh one
reading against another: the cost of the faults in it, its weight, and how many
visible nodes it holds.
-/

namespace CallAtlas

/-- The symbol of text that fits nowhere. -/
def errorSymbol : Nat := 65535

/-- The symbol of skipped pieces on their way to becoming an error node. -/
def skippedSymbol : Nat := 65534

/-- The data of one node. -/
structure SubtreeInfo where
  symbol : Nat
  /-- Where the blanks before the node begin. -/
  padding : Nat
  start : Nat
  stop : Nat
  visible : Bool
  /-- The cost of the faults in the node. -/
  cost : Nat
  weight : Int
  /-- Visible nodes strictly inside. -/
  visibleDescendants : Nat
  /-- Visible nodes with no other visible node between. -/
  visibleChildren : Nat
  /-- A node that may stand anywhere. -/
  extra : Bool
  /-- A token that the parser supplied. -/
  missing : Bool
  /-- The production that was reduced. -/
  production : Option Nat
  /-- The symbol of the first token. -/
  firstLeaf : Nat
  /-- A token that was found as a name. -/
  fromWord : Bool
  /-- How many nodes there are, hidden ones included. -/
  size : Nat
  deriving Inhabited

/-- A node with its children. -/
inductive Subtree where
  | node (info : SubtreeInfo) (children : List Subtree)
  deriving Inhabited

namespace Subtree

/-! ## Costs -/

/-- What a missing token costs. -/
def missingCost : Nat := 610

/-- What every error node costs. -/
def recoveryCost : Nat := 500

/-- What skipping a visible node costs. -/
def skippedTreeCost : Nat := 100

/-- What skipping a line break costs. -/
def skippedLineCost : Nat := 30

/-- The data of a node. -/
def info : Subtree → SubtreeInfo
  | node i _ => i

/-- The children in order. -/
def children : Subtree → List Subtree
  | node _ cs => cs

/-- The cost of the faults in a subtree. -/
def cost (t : Subtree) : Nat := if t.info.missing then missingCost else t.info.cost

/-- Whether the symbol belongs to text that fits nowhere. -/
def isErrorSymbol (symbol : Nat) : Bool := symbol == errorSymbol || symbol == skippedSymbol

/-- A token of the text. -/
def leaf (symbol padding start stop : Nat) (visible : Bool) : Subtree :=
  node
    { symbol, padding, start, stop, visible, cost := 0, weight := 0
      visibleDescendants := 0, visibleChildren := 0
      extra := symbol == Language.endOfText, missing := false, production := none
      firstLeaf := symbol, fromWord := false, size := 1 } []

/-- Changes the data of a node. -/
def mapInfo (f : SubtreeInfo → SubtreeInfo) : Subtree → Subtree
  | node i cs => node (f i) cs

/-- The cost of a child as a skipped node. -/
def skippedCost (c : Subtree) : Nat :=
  let i := c.info
  if i.extra || (i.symbol == errorSymbol && c.children.isEmpty) then 0
  else if i.visible then skippedTreeCost
  else skippedTreeCost * i.visibleChildren

/-- The cost of the text that an error node covers. -/
def skippedTextCost (t : SourceText) (start stop : Nat) : Nat :=
  (stop - start) + skippedLineCost * (t.row stop - t.row start)

/-- What is summed over the children of a node. -/
structure Tally where
  /-- The steps of the production that are still to be matched with children. -/
  steps : List Step
  faults : Nat
  /-- The cost of the children if they are skipped. -/
  skipped : Nat
  weight : Int
  visibleDescendants : Nat
  visibleChildren : Nat
  size : Nat
  stop : Nat

/-- Adds one child. It counts as visible if it is, or if its step in the
production gives it a name. -/
def Tally.add (t : Tally) (c : Subtree) : Tally :=
  let i := c.info
  let named := !i.extra && ((t.steps.head?).bind (·.shown)).isSome
  let shown := named || i.visible
  { steps := if i.extra then t.steps else t.steps.drop 1
    faults := t.faults + (if i.symbol == skippedSymbol then 0 else c.cost)
    skipped := t.skipped + skippedCost c
    weight := t.weight + i.weight
    visibleDescendants := t.visibleDescendants + i.visibleDescendants + (if shown then 1 else 0)
    visibleChildren := t.visibleChildren + (if shown then 1 else i.visibleChildren)
    size := t.size + i.size
    stop := i.stop }

/-- A node over children. `place` is where it lies if it has none. -/
def branch (t : SourceText) (symbol : Nat) (visible : Bool) (steps : List Step)
    (production : Option Nat) (place : Nat) (children : List Subtree) : Subtree :=
  let first := children.head?.map info
  let start := (first.map (·.start)).getD place
  let tally := children.foldl Tally.add ⟨steps, 0, 0, 0, 0, 0, 1, place⟩
  let skipped :=
    if isErrorSymbol symbol then
      tally.skipped + recoveryCost + skippedTextCost t start tally.stop
    else 0
  node
    { symbol, padding := (first.map (·.padding)).getD place, start, stop := tally.stop, visible
      cost := tally.faults + skipped, weight := tally.weight
      visibleDescendants := tally.visibleDescendants, visibleChildren := tally.visibleChildren
      extra := false, missing := false, production
      firstLeaf := (first.map (·.firstLeaf)).getD symbol, fromWord := false
      size := tally.size } children

/-- An error node. -/
def error (t : SourceText) (place : Nat) (extra : Bool) (children : List Subtree) : Subtree :=
  (branch t errorSymbol true [] none place children).mapInfo fun i => { i with extra }

/-- How many nodes a subtree counts for. -/
def nodeCount (t : Subtree) : Nat :=
  let i := t.info
  i.visibleDescendants + (if i.visible then 1 else 0) +
    (if i.symbol == skippedSymbol then 1 else 0)

/-- Splits off the extras at the end. -/
def splitExtras (ts : List Subtree) : List Subtree × List Subtree :=
  let backward := ts.reverse
  match backward with
  | [] => (ts, [])
  | last :: _ =>
    if last.info.extra then
      ((backward.dropWhile (·.info.extra)).reverse, (backward.takeWhile (·.info.extra)).reverse)
    else (ts, [])

/-! ## Choosing between readings -/

/-- Compares pairs of subtrees in preorder: by symbol, then by the number of
children; `fuel` bounds the pairs. -/
def compareAll : Nat → List (Subtree × Subtree) → Ordering
  | 0, _ => .eq
  | _, [] => .eq
  | fuel + 1, (node i cs, node j ds) :: rest =>
    if i.symbol < j.symbol then .lt
    else if j.symbol < i.symbol then .gt
    else if cs.length < ds.length then .lt
    else if ds.length < cs.length then .gt
    else compareAll fuel (cs.zip ds ++ rest)

/-- Whether the second of two readings of one stretch of text is to be taken: the
one with fewer faults, then the heavier one. With equal faults the later reading
is taken, without faults the one that comes first in the order of symbols. -/
def prefersSecond (limit : Nat) (a b : Subtree) : Bool :=
  if b.cost < a.cost then true
  else if a.cost < b.cost then false
  else if a.info.weight < b.info.weight then true
  else if b.info.weight < a.info.weight then false
  else if 0 < a.cost then true
  else compareAll limit [(a, b)] == .gt

/-- Whether two subtrees between the same states can stand for each other. -/
def interchangeable : Option Subtree → Option Subtree → Bool
  | none, none => true
  | some a, some b =>
    let i := a.info
    let j := b.info
    i.symbol == j.symbol &&
      ((0 < a.cost && 0 < b.cost) ||
        (i.start - i.padding == j.start - j.padding && i.stop - i.start == j.stop - j.start &&
          a.children.length == b.children.length && i.extra == j.extra))
  | _, _ => false

end Subtree

end CallAtlas
