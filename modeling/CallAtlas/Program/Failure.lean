import CallAtlas.Configuration.Basic
import CallAtlas.Files.Glob
import CallAtlas.Files.Tree

/-!
# Why the program stops

Faults of a source text are told in reports; these stop the program.
-/

namespace CallAtlas

/-- Why the program stops. -/
inductive Failure where
  | files (fault : PathFault)
  /-- The configuration is no text that can be read as one. -/
  | configurationText
  | configuration (fault : ConfigurationFault)
  | pathMissing (path : String)
  | pattern (error : GlobError)
  | unknownFormat (name : String)
  | noFiles
  deriving DecidableEq, Inhabited, Repr

namespace Failure

/-- What is said of it. -/
def message : Failure → String
  | files fault => "IO error: " ++ fault.message
  | configurationText => "Failed to parse config file: not a configuration"
  | configuration fault => "Config validation error: " ++ fault.message
  | pathMissing path => "Path not found: " ++ path
  | pattern error => "Glob pattern error: " ++ error.message
  | unknownFormat name => "Unknown format: " ++ name
  | noFiles => "No source files found"

/-- The failure of overrides. -/
def ofOverride : Configuration.OverrideFault → Failure
  | .unknownFormat name => .unknownFormat name
  | .invalid fault => .configuration fault

end Failure

end CallAtlas
