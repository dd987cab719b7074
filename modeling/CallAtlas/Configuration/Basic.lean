import CallAtlas.Report.Basic

/-!
# Configurations

What can be set: which files are analysed, how graphs are laid out, and how reports
are written. A configuration can be checked, and what the command line says can be
added to it.
-/

namespace CallAtlas

/-- Which files are analysed. -/
structure AnalysisSettings where
  /-- The largest source text in bytes. -/
  maxSourceBytes : Nat
  /-- Patterns, one of which a file must match. -/
  include_ : List String
  /-- Patterns, none of which a file may match. -/
  exclude : List String
  deriving DecidableEq, Inhabited, Repr

/-- How reports are written. -/
structure OutputSettings where
  format : ReportFormat
  /-- Whether only exported functions and those that they call are told. -/
  simplify : Bool
  deriving DecidableEq, Inhabited, Repr

/-- A configuration. -/
structure Configuration (α : Type) where
  analysis : AnalysisSettings
  layout : LayoutSettings α
  output : OutputSettings
  deriving DecidableEq, Inhabited, Repr

namespace AnalysisSettings

/-- The settings where nothing is said. -/
def standard : AnalysisSettings :=
  { maxSourceBytes := defaultSourceLimit
    include_ := ["**/*.ts", "**/*.tsx"]
    exclude := ["node_modules/**", "dist/**", "build/**", "**/*.d.ts"] }

end AnalysisSettings

namespace OutputSettings

/-- The settings where nothing is said. -/
def standard : OutputSettings := ⟨.summary, false⟩

end OutputSettings

/-- What is wrong with a configuration. -/
inductive ConfigurationFault where
  | noSourceBytes
  | noInclude
  | noColumns
  | widthsCrossed
  | badSize
  deriving DecidableEq, Inhabited, Repr

namespace ConfigurationFault

/-- What is said of it. -/
def message : ConfigurationFault → String
  | noSourceBytes => "max_source_bytes must be at least 1"
  | noInclude => "at least one include pattern required"
  | noColumns => "grid_columns must be at least 1"
  | widthsCrossed => "min_width cannot exceed max_width"
  | badSize => "layout sizes must be finite and non-negative"

end ConfigurationFault

namespace Configuration

variable {α : Type} [Measure α]

/-- The configuration where nothing is said. -/
def standard : Configuration α := ⟨.standard, .standard, .standard⟩

/-- Whether a number can be the length of something. -/
def isLength (x : α) : Bool := Measure.isFinite x && !Measure.isBelow x Measure.zero

/-- What is wrong with a configuration first. -/
def fault? (c : Configuration α) : Option ConfigurationFault :=
  let l := c.layout
  if c.analysis.maxSourceBytes = 0 then some .noSourceBytes
  else if c.analysis.include_.isEmpty then some .noInclude
  else if l.columns = 0 then some .noColumns
  else if Measure.isBelow l.maxWidth l.minWidth then some .widthsCrossed
  else if [l.nodeWidth, l.nodeHeight, l.rankGap, l.nodeGap].all isLength then none
  else some .badSize

/-- What the command line says about a configuration. -/
structure Overrides where
  exclude : List String
  format : Option String
  arrangement : Option Arrangement
  direction : Option Direction
  simplify : Bool
  deriving DecidableEq, Inhabited, Repr

namespace Overrides

/-- Overrides that say nothing. -/
def none : Overrides := ⟨[], .none, .none, .none, false⟩

end Overrides

/-- Why overrides are refused. -/
inductive OverrideFault where
  | unknownFormat (name : String)
  | invalid (fault : ConfigurationFault)
  deriving DecidableEq, Inhabited, Repr

/-- Adds overrides to a configuration. If the format is not known, only the patterns
are added. The configuration that comes out is checked. -/
def override (c : Configuration α) (o : Overrides) : Configuration α × Option OverrideFault :=
  let analysis := { c.analysis with exclude := c.analysis.exclude ++ o.exclude }
  let c := { c with analysis }
  let format := match o.format with
    | some name => match ReportFormat.ofName? name with
      | some format => Except.ok format
      | .none => .error name
    | .none => .ok c.output.format
  match format with
  | .error name => (c, some (.unknownFormat name))
  | .ok format =>
    let layout :=
      { c.layout with
          arrangement := o.arrangement.or c.layout.arrangement
          direction := o.direction.getD c.layout.direction }
    let c := { c with layout, output := ⟨format, o.simplify || c.output.simplify⟩ }
    (c, (fault? c).map .invalid)

end Configuration

end CallAtlas
