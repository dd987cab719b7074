/-!
# Functions and calls

What is told of a function of a source text: its name, its parameters, where it
stands, and a few marks. A name with a point in it is the name of a member,
written behind the name of its owner. A call site joins two functions by their
names.
-/

namespace CallAtlas

/-- The type that is told where none is written. -/
def anyType : String := "any"

/-- Where something stands, counted from 1; all zeros where that is not known. -/
structure Span where
  startLine : Nat
  startColumn : Nat
  endLine : Nat
  endColumn : Nat
  deriving DecidableEq, Inhabited, Repr

namespace Span

/-- The span that is not known. -/
def unknown : Span := ⟨0, 0, 0, 0⟩

/-- The number of lines that a span touches. -/
def lineCount (s : Span) : Nat :=
  if s.startLine = 0 then 0 else s.endLine - s.startLine + 1

end Span

/-- A parameter of a function. -/
structure Parameter where
  name : String
  typeText : String
  optional : Bool
  defaultText : Option String
  deriving DecidableEq, Inhabited, Repr

namespace Parameter

/-- A parameter of which only the name is known. -/
def named (name : String) : Parameter := ⟨name, anyType, false, none⟩

/-- A parameter without a name of its own is named for its index. -/
def unnamed (index : Nat) : Parameter := named s!"param{index}"

/-- What stands before the name of a parameter that takes all that is left. -/
def restMark : String := "..."

/-- Whether a parameter takes all arguments that are left. -/
def isRest (p : Parameter) : Bool := restMark.toList.isPrefixOf p.name.toList

/-- A parameter as it is shown. -/
def display (p : Parameter) : String :=
  let mark := if p.optional && p.defaultText.isNone then "?" else ""
  let default := match p.defaultText with
    | some text => " = " ++ text
    | none => ""
  p.name ++ mark ++ ": " ++ p.typeText ++ default

end Parameter

/-- A function of a source text. -/
structure FunctionInfo where
  name : String
  parameters : List Parameter
  returnType : String
  span : Span
  isAsync : Bool
  isExported : Bool
  documentation : Option String
  deriving DecidableEq, Inhabited, Repr

namespace FunctionInfo

/-- A function of which only the name is known. -/
def named (name : String) : FunctionInfo := ⟨name, [], anyType, .unknown, false, false, none⟩

/-- Whether a name is that of a member of something. -/
def isMemberName (name : String) : Bool := name.any (· == '.')

/-- Whether a function is a member of something. -/
def isMethod (f : FunctionInfo) : Bool := isMemberName f.name

/-- Name, parameters and return type in one line. -/
def signature (f : FunctionInfo) : String :=
  let mark := if f.isAsync then "async " else ""
  let parameters := ", ".intercalate (f.parameters.map Parameter.display)
  mark ++ f.name ++ "(" ++ parameters ++ "): " ++ f.returnType

end FunctionInfo

/-- A call of one function by another. -/
structure CallSite where
  caller : String
  callee : String
  line : Nat
  column : Option Nat
  deriving DecidableEq, Inhabited, Repr

end CallAtlas
