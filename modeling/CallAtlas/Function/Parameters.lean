import CallAtlas.Function.TypeExpr
import CallAtlas.Text.Blank

/-!
# Parameters of functions

Parameters with a name of their own are told with type and default; patterns are
named for their index. A parameter with a default is optional.
-/

namespace CallAtlas

namespace Parameter

/-- Kinds of nodes whose text is told as a default. -/
def plainDefaults : List String := ["number", "true", "false", "null", "undefined", "identifier"]

/-- A quotation mark. -/
def isQuote (c : Char) : Bool := c == '"' || c == '\''

/-- The text of a default. -/
def defaultOf (source : SourceText) (value : SyntaxTree) : String :=
  if plainDefaults.contains value.kind then value.text source
  else if value.kind = "string" then Blank.dropEnds isQuote (value.text source)
  else "unknown"

/-- The name of a parameter that takes all arguments that are left. -/
def restName (source : SourceText) (index : Nat) (rest : SyntaxTree) : String :=
  match rest.namedChildren.head? with
  | some inner =>
    if inner.kind = "identifier" then restMark ++ inner.text source
    else restMark ++ (unnamed index).name
  | none => restMark ++ (unnamed index).name

/-- The name that a pattern gives. -/
def patternName? (source : SourceText) (index : Nat) (pattern : SyntaxTree) : Option String :=
  if pattern.kind = "identifier" || pattern.kind = "this" then some (pattern.text source)
  else if pattern.kind = "rest_pattern" then some (restName source index pattern)
  else none

/-- A parameter with a pattern, a type and a default. -/
def ofTyped (source : SourceText) (index : Nat) (t : SyntaxTree) : Parameter :=
  match (t.child? "pattern").bind (patternName? source index) with
  | none => unnamed index
  | some name =>
    let default := (t.child? "value").map (defaultOf source)
    { name
      typeText := ((t.child? "type").map (TypeExpr.ofAnnotation source)).getD anyType
      optional := t.kind == "optional_parameter" || default.isSome
      defaultText := default }

/-- A pattern with a default. -/
def ofAssignment (source : SourceText) (index : Nat) (t : SyntaxTree) : Parameter :=
  match t.child? "left" with
  | none => unnamed index
  | some left =>
    if left.kind = "identifier" then
      let default := (t.child? "right").map (defaultOf source)
      ⟨left.text source, anyType, true, default⟩
    else unnamed index

/-- The parameter that a node declares. -/
def ofTree (source : SourceText) (index : Nat) (t : SyntaxTree) : Parameter :=
  if t.kind = "required_parameter" || t.kind = "optional_parameter" then ofTyped source index t
  else if t.kind = "identifier" then named (t.text source)
  else if t.kind = "assignment_pattern" then ofAssignment source index t
  else if t.kind = "rest_pattern" then named (restName source index t)
  else unnamed index

/-- The parameters of a function: one identifier, or a list. -/
def listOf (source : SourceText) (function : SyntaxTree) : List Parameter :=
  match function.child? "parameter" with
  | some single => [named (single.text source)]
  | none => match function.child? "parameters" with
    | none => []
    | some list =>
      (list.namedChildren.filter (·.kind != "comment")).mapIdx (ofTree source)

end Parameter

end CallAtlas
