import CallAtlas.Configuration.Record
import CallAtlas.Files.Discovery
import CallAtlas.Program.Failure
import CallAtlas.Report.Document

/-!
# Analysing files

A configuration with its patterns read, and the reports on files and texts that come
of it.
-/

namespace CallAtlas

/-- What an analysis of files needs. -/
structure Analyzer where
  configuration : Configuration Float
  filter : NodeFilter
  selection : Selection

namespace Configuration

/-- The configuration in a TOML text, checked. -/
def load (text : String) : Except Failure (Configuration Float) :=
  match ofToml? text with
  | none => .error .configurationText
  | some c => match fault? c with
    | some fault => .error (.configuration fault)
    | none => .ok c

/-- The configuration in the file to which a path leads. -/
def loadFile (t : FileTree) (path : String) : Except Failure (Configuration Float) :=
  match t.read path with
  | .error fault => .error (.files fault)
  | .ok text => load text

end Configuration

namespace Analyzer

/-- Reads the patterns of a configuration. -/
def ofConfiguration (c : Configuration Float) (filter : NodeFilter) : Except Failure Analyzer :=
  match Selection.ofStrings c.analysis.include_ c.analysis.exclude with
  | .error e => .error (.pattern e)
  | .ok selection => .ok ⟨c, filter, selection⟩

variable {m : Type → Type} [Monad m] (parse : Dialect → SourceText → m SyntaxTree)

/-- The report on an analysed file. -/
def report (a : Analyzer) (path : String) (analysis : SourceAnalysis) : Report Float :=
  .ofAnalysis a.filter a.configuration.output.simplify a.configuration.layout path analysis

/-- The report on a text. -/
def reportText (a : Analyzer) (path text : String) : m (Report Float) := do
  let limit := a.configuration.analysis.maxSourceBytes
  return a.report path (← SourceAnalysis.ofSource parse limit (.ofString text))

/-- The report on the file to which a path leads. A file that cannot be read is a
fault of its own. -/
def reportFile (a : Analyzer) (t : FileTree) (path : String) : m (Report Float) :=
  match t.read path with
  | .ok text => a.reportText parse path text
  | .error fault =>
    let message := s!"Failed to read {path}: {fault.message}"
    return a.report path (.failed ⟨.analysis, message, none, none⟩)

/-- The reports on the files to which paths lead. -/
def reportFiles (a : Analyzer) (t : FileTree) (paths : List String) : m (List (Report Float)) :=
  paths.mapM (a.reportFile parse t)

/-- The files to which paths lead. A file tree has only what can be read. -/
def discover (a : Analyzer) (t : FileTree) (paths : List String) :
    Except Failure (List String) :=
  match t.discover (fun _ => true) a.selection paths with
  | .ok files => .ok files
  | .error path => .error (.pathMissing path)

/-- Reports in the form that the configuration asks for. -/
def render (a : Analyzer) (reports : List (Report Float)) : String :=
  Report.render a.configuration.output.format a.configuration.layout.direction reports

end Analyzer

end CallAtlas
