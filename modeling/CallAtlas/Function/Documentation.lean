import CallAtlas.Function.Naming
import CallAtlas.Text.Blank
import CallAtlas.Text.Lines

/-!
# Comments that document functions

The comments right before the statement or member to which a function belongs,
without their marks. A comment that begins on the line where the node before it
ends belongs to that node.
-/

namespace CallAtlas

namespace Documentation

/-! ## Without marks -/

/-- Without white space at either end. -/
def trimmed (line : List Char) : List Char :=
  (line.dropWhile Blank.isBlank).reverse.dropWhile Blank.isBlank |>.reverse

/-- Without the white space at the end. -/
def trimmedEnd (line : List Char) : List Char :=
  (line.reverse.dropWhile Blank.isBlank).reverse

/-- Marks that open a comment, the longer first. -/
def openings : List (List Char) := [['/', '*', '*'], ['/', '*'], ['/', '/']]

/-- Without the first mark with which a line begins. -/
def withoutOpening (line : List Char) : List Char :=
  match openings.find? (·.isPrefixOf line) with
  | some mark => line.drop mark.length
  | none => line

/-- Without the mark at the end that closes a comment, and the white space behind it.
What stands before the mark stays as it is. -/
def withoutClosing (line : List Char) : List Char :=
  match (trimmedEnd line).reverse with
  | '/' :: '*' :: rest => rest.reverse
  | _ => line

/-- Without the marks at the front of a line inside a comment. -/
def withoutMarks (line : List Char) : List Char := line.dropWhile fun c => c == '*' || c == '/'

/-- The content of a line of a comment. -/
def content (line : List Char) : List Char :=
  trimmed (withoutMarks (trimmed (withoutClosing (withoutOpening (trimmed line)))))

/-- The content of the lines of a comment that have one. -/
def clean (comment : String) : Option String :=
  let lines := ((Lines.split comment.toList).map content).filter (!·.isEmpty)
  if lines.isEmpty then none else some ("\n".intercalate (lines.map String.ofList))

/-! ## Finding them -/

/-- The place itself, or the export around it. -/
def withExport (p : Place) : Place :=
  match p.parent? with
  | some parent => if parent.kind = "export_statement" then parent else p
  | none => p

/-- The statement or member before which the comments of a function stand. -/
def anchor? (p : Place) : Option Place :=
  if Naming.isDeclaration p.kind then some (withExport p)
  else if p.kind = Naming.method then some p
  else do
    let parent ← p.parent?
    if parent.kind = "variable_declarator" then return withExport (← parent.parent?)
    else if Naming.fields.contains parent.kind || parent.kind = "pair" then some parent
    else none

/-- Whether a node begins on the line on which the node before it ends. -/
def isTrailing (t : SyntaxTree) (earlier : List SyntaxTree) : Bool :=
  match earlier with
  | [] => false
  | u :: _ => u.info.stopPoint.row == t.info.startPoint.row

/-- The texts of the comments among the nodes before a place, in the order of the
text, `acc` behind them. The nearest node comes first; decorators and fixed texts
are passed over. -/
def commentsBefore (source : SourceText) (acc : List String) : List SyntaxTree → List String
  | [] => acc
  | t :: earlier =>
    if !t.info.named || t.kind = "decorator" then commentsBefore source acc earlier
    else if t.kind = "comment" && !isTrailing t earlier then
      commentsBefore source (t.text source :: acc) earlier
    else acc

/-- The comments that document the function at a place. -/
def at? (source : SourceText) (p : Place) : Option String := do
  let anchor ← anchor? p
  match commentsBefore source [] anchor.before with
  | [] => none
  | comments => clean ("\n".intercalate comments)

end Documentation

end CallAtlas
