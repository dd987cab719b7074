import CallAtlas.Configuration.Basic
import CallAtlas.Layout.Record
import CallAtlas.Toml.Reader

/-!
# Configurations as records

How configurations are written as JSON and read back, and how they are read from TOML.
What is left out has its standard value.
-/

namespace CallAtlas

open Json

variable {α : Type}

namespace AnalysisSettings

/-- The settings as a record. -/
def toJson (s : AnalysisSettings) : Json α :=
  .obj [("max_source_bytes", .nat s.maxSourceBytes), ("include", .strs s.include_),
    ("exclude", .strs s.exclude)]

/-- Reads the settings. -/
def ofJson? (c : Conventions α) : Json α → Option AnalysisSettings :=
  record? c do
    let maxSourceBytes ← fieldOr standard.maxSourceBytes "max_source_bytes" size?
    let include_ ← fieldOr standard.include_ "include" (list? string?)
    let exclude ← fieldOr standard.exclude "exclude" (list? string?)
    return { maxSourceBytes, include_, exclude }

end AnalysisSettings

namespace ReportFormat

/-- The formats by their names. -/
def choices : List (String × ReportFormat) :=
  [ReportFormat.summary, .json, .mermaid].map fun f => (f.name, f)

end ReportFormat

namespace OutputSettings

/-- The settings as a record. -/
def toJson (s : OutputSettings) : Json α :=
  .obj [("format", .str s.format.name), ("simplify", .bool s.simplify)]

/-- Reads the settings. -/
def ofJson? (c : Conventions α) : Json α → Option OutputSettings :=
  record? c do
    let format ← fieldOr standard.format "format" (choice? c ReportFormat.choices)
    let simplify ← fieldOr standard.simplify "simplify" bool?
    return { format, simplify }

end OutputSettings

namespace Configuration

/-- A configuration as a record. -/
def toJson (c : Configuration α) : Json α :=
  .obj [("analysis", c.analysis.toJson), ("layout", c.layout.toJson), ("output", c.output.toJson)]

/-- Reads a configuration. -/
def ofJson? [Measure α] (c : Conventions α) : Json α → Option (Configuration α) :=
  record? c do
    let analysis ← fieldOr .standard "analysis" (AnalysisSettings.ofJson? c)
    let layout ← fieldOr .standard "layout" (LayoutSettings.ofJson? c)
    let output ← fieldOr .standard "output" (OutputSettings.ofJson? c)
    return { analysis, layout, output }

/-- How TOML writes what records are made of. -/
def tomlConventions : Conventions Float :=
  { isNothing := fun v => match v with
      | .arr [] => true
      | .obj [] => true
      | _ => false
    exactLists := false }

/-- The configuration that a TOML text writes. -/
def ofToml? (text : String) : Option (Configuration Float) := do
  let members ← Toml.read? text
  ofJson? tomlConventions (.obj (Toml.membersToJson members))

end Configuration

end CallAtlas
