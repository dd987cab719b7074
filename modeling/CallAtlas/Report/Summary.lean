import CallAtlas.Number.Basic
import CallAtlas.Report.Basic

/-!
# Summaries

Reports as lines for people to read: one paragraph per file and a line with totals.
-/

namespace CallAtlas

variable {α : Type}

namespace Report

/-- The most edges that are listed of a file. -/
def maxListedEdges : Nat := 20

/-- Some things with commas between them, unless there are none. -/
def listLine (title : String) (items : List String) : List String :=
  if items.isEmpty then [] else ["  " ++ title ++ ": " ++ ", ".intercalate items]

/-- The line of an edge. -/
def edgeLine (g : CallGraph α) (e : Edge) : String :=
  let labelOf := fun (id : String) => ((g.node? id).map Node.label).getD id
  let count := match e.label with
    | some label => " (" ++ label ++ ")"
    | none => ""
  "    " ++ labelOf e.source ++ " -> " ++ labelOf e.target ++ count

/-- The lines on a graph. -/
def graphLines (g : CallGraph α) : List String :=
  let s := g.stats
  let marked := s!"{s.exported} exported, {s.asyncFunctions} async, {s.methods} methods"
  let functions := s!"  functions: {s.nodes} ({marked})"
  let calls :=
    s!"  calls: {s.totalCalls} across {s.edges} edge(s), max complexity {s.maxComplexity}"
  let more :=
    if maxListedEdges < g.edges.length then
      [s!"    ... and {g.edges.length - maxListedEdges} more"]
    else []
  [functions, calls] ++ (g.edges.take maxListedEdges).map (edgeLine g) ++ more

/-- The lines on what a file imports and exports. -/
def surfaceLines (a : SourceAnalysis) : List String :=
  listLine "imports" a.imports ++ listLine "exports" a.exports

/-- The lines on a file. -/
def lines (r : Report α) : List String :=
  r.path :: match r.analysis.status with
    | .failed => r.analysis.faults.map fun f => "  error (" ++ f.kind.name ++ "): " ++ f.display
    | .noFunctions => "  No functions found" :: surfaceLines r.analysis
    | .parsed => graphLines r.graph ++ surfaceLines r.analysis

/-- The line with totals. -/
def totalLine (reports : List (Report α)) : String :=
  let functions := Number.total (reports.map (·.analysis.functions.length))
  let failed := reports.countP (·.analysis.status == .failed)
  s!"Analyzed {reports.length} file(s): {functions} function(s), {failed} with errors"

/-- Reports for people to read. -/
def summary (reports : List (Report α)) : String :=
  let lines := reports.flatMap (fun r => r.lines ++ [""]) ++ [totalLine reports]
  lines.foldl (fun text line => text ++ line ++ "\n") ""

end Report

end CallAtlas
