import CallAtlas.Function.Documentation
import CallAtlas.Function.Parameters
import CallAtlas.Syntax.Cursor

/-!
# The functions of a tree

Every place of a function that has a name tells one `FunctionInfo`, in the order
of the text.
-/

namespace CallAtlas

namespace FunctionInfo

/-- Where a node stands, counted from 1. -/
def spanOf (t : SyntaxTree) : Span :=
  let start := t.info.startPoint
  let stop := t.info.stopPoint
  ⟨start.row + 1, start.column + 1, stop.row + 1, stop.column + 1⟩

/-- Whether a node stands right under an export. -/
def isUnderExport (p : Place) : Bool :=
  match p.parent? with
  | some parent => parent.kind == "export_statement"
  | none => false

/-- Whether the nearest class around a place is exported. -/
def classIsExported (p : Place) : Bool :=
  match Naming.enclosingClass? p with
  | some c => isUnderExport c
  | none => false

/-- Whether the function at a place is exported: by the export right around its
declaration, its variable or its class. -/
def exportedAt (p : Place) : Bool :=
  if Naming.isDeclaration p.kind then isUnderExport p
  else match p.parent? with
    | none => false
    | some parent =>
      if parent.kind = "variable_declarator" then
        Naming.isExpression p.kind && match parent.parent? with
          | some declaration => isUnderExport declaration
          | none => false
      else if parent.kind = "class_body" then p.kind == Naming.method && classIsExported p
      else if Naming.fields.contains parent.kind then classIsExported parent
      else false

/-- The function with a name at a place. -/
def ofPlace (source : SourceText) (name : String) (p : Place) : FunctionInfo :=
  { name
    parameters := Parameter.listOf source p.tree
    returnType :=
      ((p.tree.child? "return_type").map (TypeExpr.ofAnnotation source)).getD anyType
    span := spanOf p.tree
    isAsync := p.tree.children.any (·.kind == "async")
    isExported := exportedAt p
    documentation := Documentation.at? source p }

/-- The function at a place, if there is one and it has a name. -/
def at? (source : SourceText) (p : Place) : Option FunctionInfo :=
  (Naming.name? source p).map (ofPlace source · p)

/-- The functions of a tree in the order of the text. -/
def listOf (source : SourceText) (t : SyntaxTree) : List FunctionInfo :=
  (Cursor.walk (at? source) t).toList

end FunctionInfo

end CallAtlas
