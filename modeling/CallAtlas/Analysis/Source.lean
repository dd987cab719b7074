import CallAtlas.Function.Extraction
import CallAtlas.Function.Calls
import CallAtlas.Function.ModuleSurface
import CallAtlas.Source.Fault

/-!
# The analysis of a source text

A text is tried with one dialect after the other until one fits it. What is told of
the text comes from that tree. If none fits, or the text is empty or too long, the
analysis tells one fault and nothing else.

The grammars are a parameter: a function from dialects to trees in some monad, so
that what parsers remember from one text to the next can be handed on.
-/

namespace CallAtlas

/-- A way to read a source text. -/
inductive Dialect where
  /-- With types and with elements. -/
  | tsx
  /-- With types, and with type assertions in place of elements. -/
  | typescript
  /-- Without types. -/
  | javascript
  deriving DecidableEq, Inhabited, Repr

namespace Dialect

/-- The written name. -/
def name : Dialect → String
  | tsx => "tsx"
  | typescript => "typescript"
  | javascript => "javascript"

end Dialect

/-- A tree without errors and the dialect that gave it. -/
structure CleanParse where
  dialect : Dialect
  tree : SyntaxTree

/-- The largest source text in bytes, unless another limit is set. -/
def defaultSourceLimit : Nat := 500 * 1024

namespace CleanParse

/-- The fault of a text that no grammar is asked about. -/
def refusal? (limit : Nat) (text : String) : Option SourceFault :=
  if Blank.isEmpty text then some (.validation "Source is empty")
  else if limit < text.utf8ByteSize then
    some (.validation
      s!"Source is {text.utf8ByteSize} bytes, exceeding the {limit / 1024}KB limit")
  else none

/-- The fault that a tree with errors shows. -/
def faultOf (source : SourceText) (tree : SyntaxTree) : SourceFault :=
  Diagnostic.toFault ((Diagnostic.ofTree tree source).getD Diagnostic.unknown)

/-- The first clean tree of some dialects, a first and others after it, or the fault
of the last. -/
def firstOf {m : Type → Type} [Monad m] (parse : Dialect → SourceText → m SyntaxTree)
    (source : SourceText) (dialect : Dialect) :
    List Dialect → m (Except SourceFault CleanParse)
  | [] => do
    let tree ← parse dialect source
    return if tree.info.hasError then .error (faultOf source tree) else .ok ⟨dialect, tree⟩
  | next :: later => do
    let tree ← parse dialect source
    if tree.info.hasError then firstOf parse source next later
    else return .ok ⟨dialect, tree⟩

/-- The clean tree of a text, or its fault. -/
def ofSource {m : Type → Type} [Monad m] (parse : Dialect → SourceText → m SyntaxTree)
    (limit : Nat) (source : SourceText) : m (Except SourceFault CleanParse) :=
  match refusal? limit source.text with
  | some fault => return .error fault
  | none => firstOf parse source .tsx [.typescript, .javascript]

end CleanParse

/-- What is told of a source text. -/
structure SourceAnalysis where
  functions : List FunctionInfo
  calls : List CallSite
  faults : List SourceFault
  imports : List String
  exports : List String
  deriving DecidableEq, Inhabited, Repr

/-- How an analysis ended. -/
inductive AnalysisStatus where
  /-- With functions. -/
  | parsed
  /-- Without functions and without faults. -/
  | noFunctions
  /-- With faults. -/
  | failed
  deriving DecidableEq, Inhabited, Repr

namespace AnalysisStatus

/-- The written name. -/
def name : AnalysisStatus → String
  | parsed => "parsed"
  | noFunctions => "noFunctions"
  | failed => "failed"

end AnalysisStatus

namespace SourceAnalysis

/-- An analysis that tells a fault and nothing else. -/
def failed (fault : SourceFault) : SourceAnalysis := ⟨[], [], [fault], [], []⟩

/-- How the analysis ended. -/
def status (a : SourceAnalysis) : AnalysisStatus :=
  if !a.faults.isEmpty then .failed else if a.functions.isEmpty then .noFunctions else .parsed

/-- What a clean tree tells. -/
def ofTree (source : SourceText) (tree : SyntaxTree) : SourceAnalysis :=
  let functions := FunctionInfo.listOf source tree
  let surface := ModuleSurface.ofTree source tree
  { functions, calls := CallSite.among source functions tree, faults := []
    imports := surface.imports, exports := surface.exports }

/-- What a parse tells. -/
def ofParse (source : SourceText) : Except SourceFault CleanParse → SourceAnalysis
  | .error fault => failed fault
  | .ok parse => ofTree source parse.tree

/-- What is told of a text of at most `limit` bytes. -/
def ofSource {m : Type → Type} [Monad m] (parse : Dialect → SourceText → m SyntaxTree)
    (limit : Nat) (source : SourceText) : m SourceAnalysis := do
  return ofParse source (← CleanParse.ofSource parse limit source)

end SourceAnalysis

end CallAtlas
