import CallAtlas.CommandLine.Help
import CallAtlas.CommandLine.Reader
import CallAtlas.Files.Change
import CallAtlas.Program.Analyzer
import CallAtlas.Text.Quoted

/-!
# Running the program

What a command line does in a file tree: what it prints, with which code it ends, and
what it leaves behind. The grammars are a parameter, as for the analysis of a text.
-/

namespace CallAtlas

/-- What a run leaves behind. -/
structure Outcome where
  exit : Nat
  /-- What is printed as the result. -/
  output : String
  /-- What is said on the side. -/
  messages : String
  tree : FileTree

namespace Outcome

/-- Lines, each with its end. -/
def lines (items : List String) : String := String.join (items.map (· ++ "\n"))

/-- The end of a run that fails after it has said something. -/
def failed (t : FileTree) (said : List String) (failure : Failure) : Outcome :=
  ⟨1, "", lines (said ++ ["Error: " ++ failure.message]), t⟩

/-- The end of a run that prints something. -/
def printed (t : FileTree) (said : List String) (text : String) : Outcome :=
  ⟨0, text ++ "\n", lines said, t⟩

/-- The end of a run whose command line makes no request. -/
def ofUsage (t : FileTree) (fault : UsageFault) : Outcome :=
  match fault with
  | .help topic => ⟨0, Help.text topic, "", t⟩
  | .version => ⟨0, versionLine ++ "\n", "", t⟩
  | .noCommand => ⟨2, "", Help.text .program, t⟩
  | fault =>
    let message := fault.message?.getD ""
    ⟨2, "", lines ["error: " ++ message, "", "For more information, try '--help'."], t⟩

end Outcome

namespace FileTree

/-- Writes a text to a file and makes the directories that the path needs. -/
def save (t : FileTree) (path text : String) : FileTree × Option PathFault :=
  match t.makeDirectories ((Path.names path).length + 1) (Path.parent path) with
  | (t, some fault) => (t, some fault)
  | (t, none) => match t.write path text.toUTF8 with
    | .ok t => (t, none)
    | .error fault => (t, some fault)

end FileTree

namespace AnalyzeRequest

/-- The file in which a configuration is looked for when none is named. -/
def standardConfigurationPath : String := "callmap.toml"

/-- The configuration of a request. A file that is named must hold one; where none is
named, a file that does not is passed over. -/
def configurationIn (r : AnalyzeRequest) (t : FileTree) :
    Except Failure (Configuration Float) := do
  let base ← match r.configuration with
    | some path => Configuration.loadFile t path
    | none => match Configuration.loadFile t standardConfigurationPath with
      | .ok c => .ok c
      | .error _ => .ok .standard
  match base.override r.overrides with
  | (_, some fault) => .error (.ofOverride fault)
  | (c, none) => .ok c

/-- Lines that are only said if the request asks for them. -/
def notes (r : AnalyzeRequest) (items : List String) : List String :=
  if r.verbose then items else []

/-- What is said before the analysis. -/
def heading (r : AnalyzeRequest) (c : Configuration Float) : List String :=
  let arrangement := match c.layout.arrangement with
    | some a => "Some(" ++ a.name.capitalize ++ ")"
    | none => "None"
  r.notes
    ["Analyzing: " ++ ", ".intercalate r.paths,
      "Format: " ++ c.output.format.name.capitalize,
      "Layout: " ++ arrangement ++ " " ++ c.layout.direction.name,
      "Include: " ++ Quoted.quoteAll c.analysis.include_,
      "Exclude: " ++ Quoted.quoteAll c.analysis.exclude]

/-- The files that are to be analysed, of which there must be one. -/
def filesIn (r : AnalyzeRequest) (t : FileTree) (c : Configuration Float) :
    Except Failure (Analyzer × List String) := do
  let analyzer ← Analyzer.ofConfiguration c r.filter
  let files ← analyzer.discover t r.paths
  if files.isEmpty then throw .noFiles
  return (analyzer, files)

/-- Prints a text, or writes it to the file that the request names. -/
def deliver (r : AnalyzeRequest) (t : FileTree) (said : List String) (text : String) : Outcome :=
  match r.output with
  | none => .printed t said text
  | some path => match t.save path text with
    | (t, some fault) => .failed t said (.files fault)
    | (t, none) => ⟨0, "", Outcome.lines (said ++ r.notes ["Output written to: " ++ path]), t⟩

variable {m : Type → Type} [Monad m] (parse : Dialect → SourceText → m SyntaxTree)

/-- Does what a request asks for. -/
def run (r : AnalyzeRequest) (t : FileTree) : m Outcome :=
  match r.configurationIn t with
  | .error failure => return .failed t [] failure
  | .ok c => match r.filesIn t c with
    | .error failure => return .failed t (r.heading c) failure
    | .ok (analyzer, files) => do
      let found := r.notes [s!"Found {files.length} source file(s)"]
      let reports ← analyzer.reportFiles parse t files
      return r.deliver t (r.heading c ++ found) (analyzer.render reports)

end AnalyzeRequest

/-- Runs a command line. -/
def CommandLine.run {m : Type → Type} [Monad m] (parse : Dialect → SourceText → m SyntaxTree)
    (t : FileTree) (arguments : List String) : m Outcome :=
  match CommandLine.read arguments with
  | .error fault => return .ofUsage t fault
  | .ok .version => return .printed t [] versionLine
  | .ok (.analyze request) => request.run parse t

end CallAtlas
