import CallAtlas.Source.Text

/-!
# Syntax trees

The tree of a text as the grammar shows it. A node has a kind, the field of its
parent under which it stands, and its extent. Nodes of kind `ERROR` cover text
that fits nowhere, and a missing node is a token that the parser supplied.

`Place` is a node together with the way to it from the root.
-/

namespace CallAtlas

/-- A node without its children. -/
structure NodeInfo where
  kind : String
  /-- A node of a rule; other nodes are fixed texts. -/
  named : Bool
  /-- The field of the parent under which the node stands. -/
  field : Option String
  /-- Text that fits nowhere. -/
  isError : Bool
  /-- A token that the parser supplied. -/
  isMissing : Bool
  /-- Whether the node is or holds text that fits nowhere or a missing token. -/
  hasError : Bool
  /-- Byte offsets. -/
  start : Nat
  stop : Nat
  startPoint : Point
  stopPoint : Point
  deriving DecidableEq, Inhabited, Repr

/-- A node with its children. -/
inductive SyntaxTree where
  | node (info : NodeInfo) (children : List SyntaxTree)
  deriving Inhabited, Repr

namespace SyntaxTree

/-- The node without its children. -/
def info : SyntaxTree → NodeInfo
  | node i _ => i

/-- The children in the order of the text. -/
def children : SyntaxTree → List SyntaxTree
  | node _ cs => cs

/-- The kind of the node. -/
def kind (t : SyntaxTree) : String := t.info.kind

/-- The children that are no fixed texts. -/
def namedChildren (t : SyntaxTree) : List SyntaxTree := t.children.filter (·.info.named)

/-- Whether the node stands under a field of its parent. -/
def isUnder (field : String) (t : SyntaxTree) : Bool := t.info.field == some field

/-- The first child under a field. -/
def child? (t : SyntaxTree) (field : String) : Option SyntaxTree :=
  t.children.find? (isUnder field)

/-- The text that the node covers. -/
def text (t : SyntaxTree) (source : SourceText) : String :=
  source.slice t.info.start t.info.stop

end SyntaxTree

/-- A node above a place, and the siblings before the child that leads there, the
nearest first. -/
structure Crumb where
  parent : SyntaxTree
  before : List SyntaxTree
  deriving Inhabited

/-- A node in its tree. -/
structure Place where
  tree : SyntaxTree
  /-- The way up, the parent first. -/
  above : List Crumb
  deriving Inhabited

namespace Place

/-- The place of a root. -/
def root (t : SyntaxTree) : Place := ⟨t, []⟩

/-- The kind of the node. -/
def kind (p : Place) : String := p.tree.kind

/-- The place of the parent. -/
def parent? (p : Place) : Option Place :=
  match p.above with
  | [] => none
  | c :: rest => some ⟨c.parent, rest⟩

/-- The places of the children in the order of the text. -/
def children (p : Place) : List Place :=
  go [] p.tree.children
where
  go (before : List SyntaxTree) : List SyntaxTree → List Place
    | [] => []
    | c :: rest => ⟨c, ⟨p.tree, before⟩ :: p.above⟩ :: go (c :: before) rest

/-- The siblings before the node, the nearest first. -/
def before (p : Place) : List SyntaxTree :=
  match p.above with
  | [] => []
  | c :: _ => c.before

/-- Whether the node is the first child of its parent under a field. -/
def isField (p : Place) (field : String) : Bool :=
  p.tree.isUnder field && !p.before.any (SyntaxTree.isUnder field)

/-- Whether the node is the first named child of its parent. -/
def isFirstNamed (p : Place) : Bool := p.tree.info.named && !p.before.any (·.info.named)

/-- The nearest place above that satisfies a condition. -/
def ancestor? (p : Place) (cond : Place → Bool) : Option Place :=
  go p.above
where
  go : List Crumb → Option Place
    | [] => none
    | c :: rest =>
      let q : Place := ⟨c.parent, rest⟩
      if cond q then some q else go rest

end Place

end CallAtlas
