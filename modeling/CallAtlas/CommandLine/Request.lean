import CallAtlas.Configuration.Basic
import CallAtlas.Graph.Select

/-!
# What is asked for

The requests that a command line can make, the options and flags in which they are
written, and what can be wrong with a command line.
-/

namespace CallAtlas

/-- A request to analyse files. -/
structure AnalyzeRequest where
  paths : List String
  format : Option String
  arrangement : Option Arrangement
  direction : Option Direction
  exportedOnly : Bool
  asyncOnly : Bool
  methodsOnly : Bool
  minComplexity : Option Nat
  maxComplexity : Option Nat
  simplify : Bool
  exclude : List String
  output : Option String
  configuration : Option String
  verbose : Bool
  deriving DecidableEq, Inhabited, Repr

namespace AnalyzeRequest

/-- The request that says nothing. -/
def empty : AnalyzeRequest :=
  ⟨[], none, none, none, false, false, false, none, none, false, [], none, none, false⟩

/-- The filter that is asked for. -/
def filter (r : AnalyzeRequest) : NodeFilter :=
  ⟨r.exportedOnly, r.asyncOnly, r.methodsOnly, r.minComplexity, r.maxComplexity⟩

/-- What is said about the configuration. -/
def overrides (r : AnalyzeRequest) : Configuration.Overrides :=
  ⟨r.exclude, r.format, r.arrangement, r.direction, r.simplify⟩

end AnalyzeRequest

/-- A request. -/
inductive Request where
  | analyze (request : AnalyzeRequest)
  | version
  deriving DecidableEq, Inhabited, Repr

/-- Options, which have a value. -/
inductive OptionName where
  | format
  | layout
  | direction
  | minComplexity
  | maxComplexity
  | exclude
  | output
  | config
  deriving DecidableEq, Inhabited, Repr

namespace OptionName

/-- All options. -/
def all : List OptionName :=
  [format, layout, direction, minComplexity, maxComplexity, exclude, output, config]

/-- The written name. -/
def name : OptionName → String
  | format => "format"
  | layout => "layout"
  | direction => "direction"
  | minComplexity => "min-complexity"
  | maxComplexity => "max-complexity"
  | exclude => "exclude"
  | output => "output"
  | config => "config"

/-- The letter that means the option. -/
def letter? : OptionName → Option Char
  | output => some 'o'
  | config => some 'c'
  | _ => none

/-- The option with a mark for its value. -/
def display (o : OptionName) : String :=
  let value := o.name.map fun c => if c = '-' then '_' else c.toUpper
  "--" ++ o.name ++ " <" ++ value ++ ">"

end OptionName

/-- Flags, which have no value. -/
inductive FlagName where
  | exportedOnly
  | asyncOnly
  | methodsOnly
  | simplify
  | verbose
  | help
  | version
  deriving DecidableEq, Inhabited, Repr

namespace FlagName

/-- The written name. -/
def name : FlagName → String
  | exportedOnly => "exported-only"
  | asyncOnly => "async-only"
  | methodsOnly => "methods-only"
  | simplify => "simplify"
  | verbose => "verbose"
  | help => "help"
  | version => "version"

/-- The letter that means the flag. -/
def letter? : FlagName → Option Char
  | verbose => some 'v'
  | help => some 'h'
  | version => some 'V'
  | _ => none

/-- The flag as it is written. -/
def display (f : FlagName) : String := "--" ++ f.name

end FlagName

/-- The commands of which help can tell. -/
inductive HelpTopic where
  | program
  | analyze
  | version
  | help
  deriving DecidableEq, Inhabited, Repr

/-- Why a command line makes no request. -/
inductive UsageFault where
  /-- Help is asked for. -/
  | help (topic : HelpTopic)
  /-- The version is asked for. -/
  | version
  /-- There is no command. -/
  | noCommand
  | unknownCommand (name : String)
  | unknownArgument (text : String)
  | noPaths
  | noValue (argument : String)
  | attachedValue (value argument : String)
  | badValue (value argument reason : String)
  | repeated (argument : String)
  deriving DecidableEq, Inhabited, Repr

namespace UsageFault

/-- What is said of it, in one line. -/
def message? : UsageFault → Option String
  | help _ | version | noCommand => none
  | unknownCommand name => some s!"unrecognized subcommand '{name}'"
  | unknownArgument text => some s!"unexpected argument '{text}' found"
  | noPaths => some "the following required arguments were not provided:"
  | noValue argument => some s!"a value is required for '{argument}' but none was supplied"
  | attachedValue value argument =>
    some s!"unexpected value '{value}' for '{argument}' found; no more were expected"
  | badValue value argument reason => some s!"invalid value '{value}' for '{argument}': {reason}"
  | repeated argument => some s!"the argument '{argument}' cannot be used multiple times"

end UsageFault

end CallAtlas
