import CallAtlas.Function.Basic
import CallAtlas.Analysis.Source
import CallAtlas.Json.Fields

/-!
# Functions, calls and faults as records

How the values that an analysis tells are written as JSON and read back.
-/

namespace CallAtlas

open Json

variable {α : Type}

namespace Parameter

/-- A parameter as a record. -/
def toJson (p : Parameter) : Json α :=
  .obj ([("name", .str p.name), ("type", .str p.typeText), ("optional", .bool p.optional)] ++
    optionalMember "defaultValue" (p.defaultText.map .str))

/-- Reads a parameter. -/
def ofJson? (c : Conventions α) : Json α → Option Parameter :=
  record? c do
    let name ← field "name" string?
    let typeText ← field "type" string?
    let optional ← field "optional" bool?
    let defaultText ← fieldOr none "defaultValue" (maybe? string?)
    return { name, typeText, optional, defaultText }

end Parameter

namespace Span

/-- A span as a record. -/
def toJson (s : Span) : Json α :=
  .obj [("startLine", .nat s.startLine), ("startColumn", .nat s.startColumn),
    ("endLine", .nat s.endLine), ("endColumn", .nat s.endColumn)]

/-- Reads a span. -/
def ofJson? (c : Conventions α) : Json α → Option Span :=
  record? c do
    let startLine ← field "startLine" size?
    let startColumn ← field "startColumn" size?
    let endLine ← field "endLine" size?
    let endColumn ← field "endColumn" size?
    return { startLine, startColumn, endLine, endColumn }

end Span

namespace FunctionInfo

/-- The members of a function behind its name. -/
def members (f : FunctionInfo) : List (String × Json α) :=
  [("parameters", .arr (f.parameters.map Parameter.toJson)), ("returnType", .str f.returnType),
    ("location", f.span.toJson), ("isAsync", .bool f.isAsync), ("isExported", .bool f.isExported)]
    ++ optionalMember "documentation" (f.documentation.map .str)

/-- A function as a record. -/
def toJson (f : FunctionInfo) : Json α := .obj (("name", .str f.name) :: f.members)

/-- Reads the fields of a function, its name under `label`. -/
def fields (c : Conventions α) (label : String) : StateT (Fields α) Option FunctionInfo := do
  let name ← field label string?
  let parameters ← field "parameters" (list? (Parameter.ofJson? c))
  let returnType ← field "returnType" string?
  let span ← field "location" (Span.ofJson? c)
  let isAsync ← field "isAsync" bool?
  let isExported ← field "isExported" bool?
  let documentation ← fieldOr none "documentation" (maybe? string?)
  return { name, parameters, returnType, span, isAsync, isExported, documentation }

/-- Reads a function. -/
def ofJson? (c : Conventions α) : Json α → Option FunctionInfo := record? c (fields c "name")

end FunctionInfo

namespace CallSite

/-- A call as a record. -/
def toJson (s : CallSite) : Json α :=
  .obj ([("caller", .str s.caller), ("callee", .str s.callee), ("lineNumber", .nat s.line)] ++
    optionalMember "columnNumber" (s.column.map .nat))

/-- Reads a call. -/
def ofJson? (c : Conventions α) : Json α → Option CallSite :=
  record? c do
    let caller ← field "caller" string?
    let callee ← field "callee" string?
    let line ← field "lineNumber" size?
    let column ← fieldOr none "columnNumber" (maybe? size?)
    return { caller, callee, line, column }

end CallSite

namespace SourceFault

/-- The kinds of faults by their names. -/
def kinds : List (String × FaultKind) :=
  [FaultKind.validation, .syntactic, .analysis, .network].map fun k => (k.name, k)

/-- The members of a fault. -/
def members (f : SourceFault) : List (String × Json α) :=
  [("kind", .str f.kind.name), ("message", .str f.message)] ++
    optionalMember "line" (f.line.map .nat) ++ optionalMember "column" (f.column.map .nat)

/-- A fault as a record. -/
def toJson (f : SourceFault) : Json α := .obj f.members

/-- Reads a fault. -/
def ofJson? (c : Conventions α) : Json α → Option SourceFault :=
  record? c do
    let kind ← field "kind" (choice? c kinds)
    let message ← field "message" string?
    let line ← fieldOr none "line" (maybe? size?)
    let column ← fieldOr none "column" (maybe? size?)
    return { kind, message, line, column }

end SourceFault

namespace SourceAnalysis

/-- An analysis as a record. -/
def toJson (a : SourceAnalysis) : Json α :=
  .obj [("functions", .arr (a.functions.map FunctionInfo.toJson)),
    ("calls", .arr (a.calls.map CallSite.toJson)),
    ("errors", .arr (a.faults.map SourceFault.toJson)),
    ("imports", .strs a.imports), ("exports", .strs a.exports)]

/-- Reads an analysis. -/
def ofJson? (c : Conventions α) : Json α → Option SourceAnalysis :=
  record? c do
    let functions ← field "functions" (list? (FunctionInfo.ofJson? c))
    let calls ← field "calls" (list? (CallSite.ofJson? c))
    let faults ← field "errors" (list? (SourceFault.ofJson? c))
    let imports ← field "imports" (list? string?)
    let exports ← field "exports" (list? string?)
    return { functions, calls, faults, imports, exports }

end SourceAnalysis

end CallAtlas
