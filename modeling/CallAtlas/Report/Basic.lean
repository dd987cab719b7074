import CallAtlas.Analysis.Source
import CallAtlas.Graph.Build
import CallAtlas.Graph.Select
import CallAtlas.Layout.Placement

/-!
# Reports

What is told of one file: the analysis of its text and the graph of its functions,
reduced and laid out as the settings say.
-/

namespace CallAtlas

/-- The form in which reports are written. -/
inductive ReportFormat where
  | summary
  | json
  | mermaid
  deriving DecidableEq, Inhabited, Repr

namespace ReportFormat

/-- The written name. -/
def name : ReportFormat → String
  | summary => "summary"
  | json => "json"
  | mermaid => "mermaid"

/-- The format that a name in capital or small letters means. -/
def ofName? (text : String) : Option ReportFormat :=
  let text := Case.toSmall text
  if ["summary", "text"].contains text then some summary
  else if text = "json" then some json
  else if ["mermaid", "mmd"].contains text then some mermaid
  else none

end ReportFormat

/-- What is told of one file. -/
structure Report (α : Type) where
  path : String
  analysis : SourceAnalysis
  graph : CallGraph α
  deriving Inhabited

namespace Report

/-- The report on a file whose text has been analysed. -/
def ofAnalysis {α : Type} [AngularMeasure α] (filter : NodeFilter) (simplify : Bool)
    (layout : LayoutSettings α) (path : String) (analysis : SourceAnalysis) : Report α :=
  let built : CallGraph α := .build analysis.functions analysis.calls
  let kept := if filter.isEmpty then built else built.filter filter
  let reduced := if simplify then kept.simplify else kept
  ⟨path, analysis, Layout.graph layout reduced⟩

end Report

end CallAtlas
