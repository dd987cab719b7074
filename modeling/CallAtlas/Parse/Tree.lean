import CallAtlas.Parse.Build
import CallAtlas.Syntax.Tree

/-!
# The tree that is shown

Hidden nodes give their children to the node above; a step of a production can
give a node its own name and field. The walk keeps a stack of the nodes that are
being built, so that the depth of a text is no matter.
-/

namespace CallAtlas

namespace Subtree

/-- A subtree with the name and the field that the step above it gives. -/
structure Awaited where
  tree : Subtree
  name : Option Alias
  field : Option String

/-- A shown node that is being built. -/
structure Unfinished where
  info : NodeInfo
  /-- The children that are done, the last first. -/
  done : List SyntaxTree
  awaited : List Awaited

/-- The children of a node with what the steps of its production give them. Under
a hidden node a child has the field of that node unless its step gives it one. -/
def awaitedChildren (field : Option String) (steps : List Step) (children : List Subtree) :
    List Awaited :=
  (children.foldl (fun (steps, acc) c =>
    if c.info.extra then (steps, ⟨c, none, none⟩ :: acc)
    else match steps with
      | [] => ([], ⟨c, none, field⟩ :: acc)
      | s :: steps => (steps, ⟨c, s.shown, s.field.or field⟩ :: acc))
    (steps, ([] : List Awaited))).2.reverse

/-- The children of a subtree that await their turn. -/
def expand (p : Parser) (t : Subtree) (field : Option String) : List Awaited :=
  awaitedChildren field ((t.info.production.map p.stepsOf).getD []) t.children

/-- What the tree shows of a node. -/
def shownInfo (p : Parser) (source : SourceText) (a : Awaited) : NodeInfo :=
  let i := a.tree.info
  let own := if i.symbol = errorSymbol then some ⟨"ERROR", true⟩
    else (p.language.symbols[i.symbol]?).bind (·.shown)
  let name := (a.name.or own).getD ⟨"", false⟩
  { kind := name.name, named := name.named, field := a.field
    isError := i.symbol == errorSymbol, isMissing := i.missing
    hasError := 0 < a.tree.cost
    start := i.start, stop := i.stop
    startPoint := source.point i.start, stopPoint := source.point i.stop }

/-- Builds the nodes of a stack, the innermost first. -/
def build (p : Parser) (source : SourceText) : Nat → List Unfinished → Option SyntaxTree
  | 0, _ => none
  | _, [] => none
  | fuel + 1, u :: stack =>
    match u.awaited with
    | [] =>
      let tree := SyntaxTree.node u.info u.done.reverse
      match stack with
      | [] => some tree
      | above :: rest => build p source fuel ({ above with done := tree :: above.done } :: rest)
    | a :: later =>
      let u := { u with awaited := later }
      if a.name.isSome || a.tree.info.visible then
        let info := shownInfo p source a
        if a.tree.children.isEmpty then
          build p source fuel ({ u with done := .node info [] :: u.done } :: stack)
        else build p source fuel (⟨info, [], expand p a.tree none⟩ :: u :: stack)
      else
        build p source fuel ({ u with awaited := expand p a.tree a.field ++ later } :: stack)

/-- The tree that is shown of a subtree. Each node is taken up once and finished
at most once. -/
def toTree (p : Parser) (source : SourceText) (t : Subtree) : Option SyntaxTree :=
  build p source (2 * t.info.size + 1)
    [⟨shownInfo p source ⟨t, none, none⟩, [], expand p t none⟩]

end Subtree

end CallAtlas
