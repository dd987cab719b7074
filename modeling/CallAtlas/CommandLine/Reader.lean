import CallAtlas.CommandLine.Request
import CallAtlas.Number.Basic

/-!
# Reading command lines

The arguments of a command line one by one. The value of an option may stand behind
its name or be the next argument; letters can be put together. What is read is taken
in when the next option, flag or path is known, so that of two faults the unknown
name is told before the value that is not good.
-/

namespace CallAtlas

/-- What has been read and is not taken in yet. -/
inductive PendingValue where
  | nothing
  /-- An option, with its value as far as it has one. -/
  | option (name : OptionName) (value : Option String)
  /-- Paths, the last first. -/
  | paths (values : List String)
  deriving DecidableEq, Inhabited, Repr

/-- What a command line says so far. -/
structure RequestDraft where
  request : AnalyzeRequest
  pending : PendingValue
  deriving DecidableEq, Inhabited, Repr

namespace RequestDraft

/-! ## Values -/

/-- The largest complexity that can be asked for. -/
def maxScore : Nat := Number.wordBound 32 - 1

/-- The whole number that a text writes, of 64 bits. -/
def readNumber (text : String) : Except String Int :=
  let (negative, digits) := match text.toList with
    | '-' :: rest => (true, rest)
    | '+' :: rest => (false, rest)
    | cs => (false, cs)
  if text.isEmpty then .error "cannot parse integer from empty string"
  else if digits.isEmpty || !digits.all Char.isDigit then .error "invalid digit found in string"
  else
    let n : Int := digits.foldl (fun n c => n * 10 + (c.toNat - '0'.toNat)) 0
    let n := if negative then -n else n
    let bound : Int := Number.wordBound 63
    if bound ≤ n then .error "number too large to fit in target type"
    else if n < -bound then .error "number too small to fit in target type"
    else .ok n

/-- The complexity that a text writes. -/
def readScore (text : String) : Except String Nat :=
  match readNumber text with
  | .error reason => .error reason
  | .ok n =>
    if 0 ≤ n ∧ n ≤ maxScore then .ok n.toNat else .error s!"{n} is not in 0..={maxScore}"

/-- A value, or the fault of an option with a value that is not good. -/
def checked {β : Type} (o : OptionName) (value : String) (result : Except String β) :
    Except UsageFault β :=
  match result with
  | .ok b => .ok b
  | .error reason => .error (.badValue value o.display reason)

/-- A path, which is not empty. -/
def checkedPath (argument value : String) : Except UsageFault String :=
  if value.isEmpty then .error (.noValue argument) else .ok value

/-- Whether an option that can be given once has been given. -/
def isGiven (r : AnalyzeRequest) : OptionName → Bool
  | .format => r.format.isSome
  | .layout => r.arrangement.isSome
  | .direction => r.direction.isSome
  | .minComplexity => r.minComplexity.isSome
  | .maxComplexity => r.maxComplexity.isSome
  | .exclude => false
  | .output => r.output.isSome
  | .config => r.configuration.isSome

/-- Takes in an option with its value. -/
def takeOption (r : AnalyzeRequest) (o : OptionName) (value : String) :
    Except UsageFault AnalyzeRequest := do
  if isGiven r o then throw (.repeated o.display)
  match o with
  | .format => return { r with format := some value }
  | .layout => return { r with arrangement := some (← checked o value (Arrangement.ofName? value)) }
  | .direction => return { r with direction := some (← checked o value (Direction.ofName? value)) }
  | .minComplexity => return { r with minComplexity := some (← checked o value (readScore value)) }
  | .maxComplexity => return { r with maxComplexity := some (← checked o value (readScore value)) }
  | .exclude => return { r with exclude := r.exclude ++ [value] }
  | .output => return { r with output := some (← checkedPath o.display value) }
  | .config => return { r with configuration := some (← checkedPath o.display value) }

/-- The paths as they are written in a usage. -/
def pathsDisplay : String := "<PATHS>..."

/-- Takes in what is pending. -/
def settle (d : RequestDraft) : Except UsageFault RequestDraft := do
  match d.pending with
  | .nothing => return d
  | .option o none => throw (.noValue o.display)
  | .option o (some value) => return ⟨← takeOption d.request o value, .nothing⟩
  | .paths values =>
    let paths ← values.reverse.mapM (checkedPath pathsDisplay)
    return ⟨{ d.request with paths := d.request.paths ++ paths }, .nothing⟩

/-! ## Arguments -/

/-- Takes in a flag. -/
def flag (d : RequestDraft) (f : FlagName) : Except UsageFault RequestDraft := do
  let d ← d.settle
  let r := d.request
  let once (given : Bool) (r : AnalyzeRequest) : Except UsageFault RequestDraft :=
    if given then .error (.repeated f.display) else .ok ⟨r, .nothing⟩
  match f with
  | .exportedOnly => once r.exportedOnly { r with exportedOnly := true }
  | .asyncOnly => once r.asyncOnly { r with asyncOnly := true }
  | .methodsOnly => once r.methodsOnly { r with methodsOnly := true }
  | .simplify => once r.simplify { r with simplify := true }
  | .verbose => once r.verbose { r with verbose := true }
  | .help => throw (.help .analyze)
  | .version => throw (.unknownArgument f.display)

/-- Begins an option, with its value if that stands behind its name. -/
def option (d : RequestDraft) (o : OptionName) (value : Option String) :
    Except UsageFault RequestDraft := do
  let d ← d.settle
  match value with
  | none => return { d with pending := .option o none }
  | some value => return ⟨← takeOption d.request o value, .nothing⟩

/-- Adds a path. -/
def path (d : RequestDraft) (value : String) : Except UsageFault RequestDraft := do
  match d.pending with
  | .paths values => return { d with pending := .paths (value :: values) }
  | _ => return { ← d.settle with pending := .paths [value] }

/-- The flags of the command. -/
def flags : List FlagName := [.exportedOnly, .asyncOnly, .methodsOnly, .simplify, .verbose, .help]

/-- Reads a name behind two strokes. -/
def named (d : RequestDraft) (name : String) (value : Option String) :
    Except UsageFault RequestDraft :=
  match OptionName.all.find? (·.name == name), flags.find? (·.name == name), value with
  | some o, _, value => d.option o value
  | none, some f, none => d.flag f
  | none, some f, some value => .error (.attachedValue value f.display)
  | none, none, _ => .error (.unknownArgument ("--" ++ name))

/-- What stands behind the letter of an option. -/
def attached (rest : List Char) : Option String :=
  match rest with
  | [] => none
  | '=' :: value => some (String.ofList value)
  | value => some (String.ofList value)

/-- Reads letters behind one stroke. -/
def letters (d : RequestDraft) : List Char → Except UsageFault RequestDraft
  | [] => .ok d
  | c :: rest =>
    match OptionName.all.find? (·.letter? == some c) with
    | some o => d.option o (attached rest)
    | none => match flags.find? (·.letter? == some c) with
      | some f => match d.flag f with
        | .ok d => letters d rest
        | .error e => .error e
      | none => .error (.unknownArgument ("-" ++ c.toString))

end RequestDraft

/-! ## Command lines -/

namespace CommandLine

open RequestDraft

/-- How an argument is written. -/
inductive Shape where
  /-- Two strokes: all that follows is paths. -/
  | stop
  | long (name : String) (value : Option String)
  | short (letters : List Char)
  | plain
  deriving DecidableEq, Inhabited, Repr

/-- How an argument is written. -/
def shapeOf (argument : String) : Shape :=
  match argument.toList with
  | ['-', '-'] => .stop
  | '-' :: '-' :: rest =>
    let name := String.ofList (rest.takeWhile (· != '='))
    match rest.dropWhile (· != '=') with
    | _ :: value => .long name (some (String.ofList value))
    | [] => .long name none
  | '-' :: c :: rest => .short (c :: rest)
  | _ => .plain

/-- Whether an option awaits its value. -/
def awaits (d : RequestDraft) : Option OptionName :=
  match d.pending with
  | .option o none => some o
  | _ => none

/-- Reads the arguments of the command that analyses files. -/
def readAnalyze (d : RequestDraft) : List String → Except UsageFault RequestDraft
  | [] => d.settle
  | argument :: rest =>
    match shapeOf argument with
    | .stop => do (← rest.foldlM path d).settle
    | .long name value => do readAnalyze (← d.named name value) rest
    | .short cs => do readAnalyze (← d.letters cs) rest
    | .plain => match awaits d with
      | some o => readAnalyze { d with pending := .option o (some argument) } rest
      | none => do readAnalyze (← d.path argument) rest

/-- The request to analyse files that some arguments make. -/
def analyze (arguments : List String) : Except UsageFault Request := do
  let d ← readAnalyze ⟨.empty, .nothing⟩ arguments
  if d.request.paths.isEmpty then throw .noPaths
  return .analyze d.request

/-- What is wrong with an argument where only some flags are known. -/
def flagFault (known : List (FlagName × UsageFault)) (argument : String) : Option UsageFault :=
  match shapeOf argument with
  | .long name value => match known.find? (·.1.name == name), value with
    | some (_, e), none => some e
    | some (f, _), some value => some (.attachedValue value f.display)
    | none, _ => some (.unknownArgument ("--" ++ name))
  | .short (c :: _) => match known.find? (·.1.letter? == some c) with
    | some (_, e) => some e
    | none => some (.unknownArgument ("-" ++ c.toString))
  | _ => none

/-- The request for the version, which has no arguments. -/
def versionRequest : List String → Except UsageFault Request
  | [] => .ok .version
  | argument :: rest =>
    match shapeOf argument, rest with
    | .stop, [] => .ok .version
    | .stop, argument :: _ => .error (.unknownArgument argument)
    | _, _ =>
      .error ((flagFault [(.help, .help .version)] argument).getD (.unknownArgument argument))

/-- The commands by their names. -/
def commands : List (String × HelpTopic) :=
  [("analyze", .analyze), ("version", .version), ("help", .help)]

/-- Help on what some arguments name. -/
def helpOn : List String → UsageFault
  | [] => .help .program
  | name :: rest => match commands.find? (·.1 == name), rest with
    | some (_, topic), [] => .help topic
    | some _, other :: _ => .unknownCommand other
    | none, _ => .unknownCommand name

/-- The request that a command line makes. -/
def read : List String → Except UsageFault Request
  | [] => .error .noCommand
  | argument :: rest =>
    if argument = "analyze" then analyze rest
    else if argument = "version" then versionRequest rest
    else if argument = "help" then .error (helpOn rest)
    else match shapeOf argument, rest with
      | .stop, [] => .error .noCommand
      | .stop, name :: _ =>
        if commands.any (·.1 == name) then .error (.unknownArgument name)
        else .error (.unknownCommand name)
      | _, _ =>
        .error ((flagFault [(.help, .help .program), (.version, .version)] argument).getD
          (.unknownCommand argument))

end CommandLine

end CallAtlas
