import CallAtlas.CommandLine.Request

/-!
# Help on the command line

What is printed when help or the version is asked for. The lines on options and flags
stand in two columns.
-/

namespace CallAtlas

/-- The name under which the program is run. -/
def programName : String := "callmap"

/-- The version of the program. -/
def programVersion : String := "0.1.0"

/-- The line that tells the version. -/
def versionLine : String := programName ++ " " ++ programVersion

namespace Help

/-- What an option is for. -/
def onOption : OptionName → String
  | .format => "Output format (summary, json, mermaid)"
  | .layout => "Layout algorithm (hierarchical, grid, circular)"
  | .direction => "Rank direction (TB, BT, LR, RL)"
  | .minComplexity => "Minimum complexity score"
  | .maxComplexity => "Maximum complexity score"
  | .exclude => "Glob patterns to exclude (can be repeated)"
  | .output => "Write output to a file instead of stdout"
  | .config => "Config file path"

/-- What a flag is for. -/
def onFlag : FlagName → String
  | .exportedOnly => "Keep only exported functions"
  | .asyncOnly => "Keep only async functions"
  | .methodsOnly => "Keep only class and object methods"
  | .simplify => "Reduce each graph to exported functions and their direct callees"
  | .verbose => "Verbose output"
  | .help => "Print help"
  | .version => "Print version"

/-- A command, with what it is for. -/
def onCommand : HelpTopic → String × String
  | .program => (programName, "Map function calls in TypeScript and TSX sources")
  | .analyze => ("analyze", "Analyze source files or directories and print their call graphs")
  | .version => ("version", "Show version information")
  | .help => ("help", "Print this message or the help of the given subcommand(s)")

/-- The name of an option or flag behind its letter. -/
def entry (letter : Option Char) (name : String) : String :=
  match letter with
  | some c => "-" ++ c.toString ++ ", " ++ name
  | none => "    " ++ name

/-- A flag with what it is for. -/
def flagRow (f : FlagName) : String × String := (entry f.letter? f.display, onFlag f)

/-- An option with what it is for. -/
def optionRow (o : OptionName) : String × String := (entry o.letter? o.display, onOption o)

/-- Rows in two columns. -/
def columns (rows : List (String × String)) : List String :=
  let width := (rows.map fun r => r.1.length).foldl max 0
  rows.map fun (left, right) =>
    "  " ++ left ++ String.ofList (List.replicate (width - left.length + 2) ' ') ++ right

/-- The rows of the command that analyses files. -/
def analyzeRows : List (String × String) :=
  [OptionName.format, .layout, .direction].map optionRow ++
  [FlagName.exportedOnly, .asyncOnly, .methodsOnly].map flagRow ++
  [OptionName.minComplexity, .maxComplexity].map optionRow ++
  [flagRow .simplify] ++ [OptionName.exclude, .output, .config].map optionRow ++
  [FlagName.verbose, .help].map flagRow

/-- How a command is written. -/
def usage : HelpTopic → String
  | .program => programName ++ " <COMMAND>"
  | .analyze => programName ++ " analyze [OPTIONS] <PATHS>..."
  | .version => programName ++ " version"
  | .help => programName ++ " help [COMMAND]..."

/-- The parts of the help on a command, each with its heading. -/
def sections : HelpTopic → List (String × List String)
  | .program =>
    [("Commands:", columns ([HelpTopic.analyze, .version, .help].map onCommand)),
      ("Options:", columns ([FlagName.help, .version].map flagRow))]
  | .analyze =>
    [("Arguments:", columns [("<PATHS>...", "Files or directories to analyze")]),
      ("Options:", columns analyzeRows)]
  | .version => [("Options:", columns [flagRow .help])]
  | .help => [("Arguments:", columns [("[COMMAND]...", "Print help for the subcommand(s)")])]

/-- The help on a command. -/
def text (topic : HelpTopic) : String :=
  let parts := (sections topic).flatMap fun (heading, lines) => "" :: heading :: lines
  let lines := [(onCommand topic).2, "", "Usage: " ++ usage topic] ++ parts
  "\n".intercalate lines ++ "\n"

end Help

end CallAtlas
