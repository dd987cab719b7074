import CallAtlas.Graph.Record
import CallAtlas.Json.Writer
import CallAtlas.Report.Flowchart
import CallAtlas.Report.Summary

/-!
# Reports as documents

Reports as JSON, and reports in the form that is asked for.
-/

namespace CallAtlas

namespace Report

open Json

variable {α : Type}

/-- A report as a record. -/
def toJson (r : Report α) : Json α :=
  let a := r.analysis
  .obj [("file", .str r.path), ("status", .str a.status.name), ("imports", .strs a.imports),
    ("exports", .strs a.exports), ("errors", .arr (a.faults.map SourceFault.toJson)),
    ("stats", r.graph.stats.toJson), ("nodes", .arr (r.graph.nodes.map Node.toJson)),
    ("edges", .arr (r.graph.edges.map Edge.toJson))]

/-- Some reports as one value: a single report stands alone. -/
def document (reports : List (Report α)) : Json α :=
  match reports with
  | [r] => r.toJson
  | _ => .arr (reports.map toJson)

/-- Reports in a form. -/
def render (format : ReportFormat) (direction : Direction) (reports : List (Report Float)) :
    String :=
  match format with
  | .summary => summary reports
  | .json => (document reports).pretty
  | .mermaid => Flowchart.ofReports direction reports

end Report

end CallAtlas
