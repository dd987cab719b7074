import CallAtlas.Function.Naming
import CallAtlas.Text.Blank

/-!
# Imports and exports

What the statements at the top of a text import and export.
-/

namespace CallAtlas

/-- The modules that a text imports and the names that it exports, in order. -/
structure ModuleSurface where
  imports : List String
  exports : List String
  deriving DecidableEq, Inhabited, Repr

namespace ModuleSurface

/-- A mark around a string. -/
def isQuote (c : Char) : Bool := c == '"' || c == '\'' || c == '\x60'

/-- A text without the marks around it. -/
def unquote (text : String) : String := Blank.dropEnds isQuote text

/-- The module that an import names. -/
def importedModule? (source : SourceText) (statement : SyntaxTree) : Option String :=
  ((statement.child? "source").or (statement.namedChildren.find? (·.kind == "string"))).map
    fun t => unquote (t.text source)

/-- The name of an export without a name of its own. -/
def defaultName : String := "default"

/-- Whether an export is the default one. -/
def isDefault (statement : SyntaxTree) : Bool :=
  statement.children.any (·.kind == "default")

/-- The name of a default export. -/
def defaultExport (source : SourceText) (declaration : Option SyntaxTree) : String :=
  let name := do
    let d ← declaration
    if Naming.isDeclaration d.kind then Naming.writtenName? source d else none
  name.getD defaultName

/-- Declarations of variables. -/
def bindings : List String := ["lexical_declaration", "variable_declaration"]

/-- Declarations of classes. -/
def classes : List String := ["class_declaration", "abstract_class_declaration"]

/-- The names that an exported declaration declares. -/
def declaredNames (source : SourceText) (declaration : SyntaxTree) : List String :=
  if bindings.contains declaration.kind then
    (declaration.namedChildren.filter (·.kind == "variable_declarator")).filterMap
      (Naming.boundName? source)
  else if Naming.isDeclaration declaration.kind || classes.contains declaration.kind then
    ((declaration.child? "name").map (·.text source)).toList
  else []

/-- The names in the lists of an export. -/
def listedNames (source : SourceText) (statement : SyntaxTree) : List String :=
  let specifiers := (statement.namedChildren.filter (·.kind == "export_clause")).flatMap
    fun list => list.namedChildren.filter (·.kind == "export_specifier")
  specifiers.filterMap fun s =>
    ((s.child? "alias").or (s.child? "name")).map fun t => unquote (t.text source)

/-- The names that a statement exports. -/
def exportedNames (source : SourceText) (statement : SyntaxTree) : List String :=
  let declaration := statement.child? "declaration"
  if isDefault statement then [defaultExport source declaration]
  else match declaration with
    | some d => declaredNames source d
    | none => listedNames source statement

/-- The imports and exports of a tree. -/
def ofTree (source : SourceText) (root : SyntaxTree) : ModuleSurface :=
  let statements := root.namedChildren
  { imports := (statements.filter (·.kind == "import_statement")).filterMap
      (importedModule? source)
    exports := (statements.filter (·.kind == "export_statement")).flatMap
      (exportedNames source) }

end ModuleSurface

end CallAtlas
