import CallAtlas.Syntax.Tree
import CallAtlas.Function.Basic

/-!
# Types

What is told of a written type: names without their arguments, arrays, unions and
parentheses. All else is not told apart.
-/

namespace CallAtlas

/-- A type as far as it is told. -/
inductive TypeExpr where
  /-- A name, or `null` or `undefined`. -/
  | named (text : String)
  | array (element : TypeExpr)
  | union (members : List TypeExpr)
  /-- A type in parentheses. -/
  | group (inner : TypeExpr)
  /-- Any other type. -/
  | other
  deriving Inhabited, Repr

namespace TypeExpr

/-! ## Reading -/

/-- Kinds of nodes that are names of types. -/
def names : List String := ["predefined_type", "type_identifier", "nested_type_identifier"]

/-- Kinds of literals that are told. -/
def literals : List String := ["null", "undefined"]

mutual

/-- The type that a node writes. -/
def ofTree (source : SourceText) (t : SyntaxTree) : TypeExpr :=
  match t with
  | .node i cs =>
    if names.contains i.kind then named (source.slice i.start i.stop)
    else if i.kind = "generic_type" then
      match cs.find? (SyntaxTree.isUnder "name") with
      | some name => named (name.text source)
      | none => other
    else if i.kind = "array_type" then
      match ofFirst source cs with
      | some element => array element
      | none => other
    else if i.kind = "union_type" then union (membersIn source cs [])
    else if i.kind = "parenthesized_type" then group ((ofFirst source cs).getD other)
    else if i.kind = "literal_type" then
      match cs.find? (·.info.named) with
      | some value => if literals.contains value.kind then named (value.text source) else other
      | none => other
    else other

/-- The type that the first named node writes. -/
def ofFirst (source : SourceText) (cs : List SyntaxTree) : Option TypeExpr :=
  match cs with
  | [] => none
  | c :: rest => if c.info.named then some (ofTree source c) else ofFirst source rest

/-- The members of a union with `acc` behind them. A union in a union adds its
members. -/
def membersIn (source : SourceText) (cs : List SyntaxTree) (acc : List TypeExpr) :
    List TypeExpr :=
  match cs with
  | [] => acc
  | .node i inner :: rest =>
    if !i.named then membersIn source rest acc
    else if i.kind = "union_type" then membersIn source inner (membersIn source rest acc)
    else ofTree source (.node i inner) :: membersIn source rest acc

end

/-! ## Writing -/

mutual

/-- The text of a type. Parentheses are written only under an array. -/
def render : TypeExpr → String
  | named text => text
  | array (group inner) => "(" ++ render inner ++ ")[]"
  | array element => render element ++ "[]"
  | union members => " | ".intercalate (renderAll members)
  | group inner => render inner
  | other => anyType

/-- The texts of some types. -/
def renderAll : List TypeExpr → List String
  | [] => []
  | t :: rest => render t :: renderAll rest

end

/-- The text of an annotation. Only a type behind a colon is told. -/
def ofAnnotation (source : SourceText) (t : SyntaxTree) : String :=
  if t.kind = "type_annotation" then
    match t.namedChildren.head? with
    | some t => (ofTree source t).render
    | none => anyType
  else anyType

end TypeExpr

end CallAtlas
