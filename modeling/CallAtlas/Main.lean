import CallAtlas.Analysis.Parsers
import CallAtlas.Program.Run
import Std.Data.HashSet.Basic

/-!
# The program

Takes up the part of the disk that a command line names as a file tree, runs the
command line in it, and prints and writes what came of it. What cannot be read is left
out of the tree.
-/

namespace CallAtlas

namespace Disk

/-- What is taken up of the disk, from the root on, and the directories below which
all is taken up. -/
structure Taken where
  root : Entry
  whole : Std.HashSet Trail

/-- An action that takes something up. -/
abbrev TakeUp := StateT Taken IO

/-- The path of a way from the root. -/
def pathOf (trail : Trail) : String := "/" ++ "/".intercalate trail

/-- The way to a path from the root. -/
def trailOf (path : String) : Trail := (Path.names path).filter (· ≠ "")

/-- An action that is passed over if it fails. -/
def attempt {α : Type} (action : IO α) : IO (Option α) :=
  try some <$> action catch _ => return none

/-- What a link at the end of a way leads to. -/
def target (trail : Trail) : IO String := return (← IO.FS.realPath (pathOf trail)).toString

/-- What stands at the end of a way; of a directory only that there is one. -/
def entryAt? (trail : Trail) : IO (Option Entry) := attempt do
  let place : IO.FS.DirEntry := ⟨pathOf trail, ""⟩
  match (← place.root.symlinkMetadata).type with
  | .dir => return .directory []
  | .symlink => return .link (← target trail)
  | _ => return .file (← IO.FS.readBinFile place.root)

/-- The names in a directory. -/
def namesIn (trail : Trail) : IO (List String) := do
  let place : IO.FS.DirEntry := ⟨pathOf trail, ""⟩
  let members ← attempt place.root.readDir
  return (members.getD #[]).toList.map (·.fileName)

/-- Puts something at the end of a way unless it is there. -/
def place (trail : Trail) (new : Entry) : TakeUp Unit :=
  modify fun taken =>
    if (taken.root.at? trail).isSome then taken
    else { taken with root := taken.root.put new trail }

mutual

/-- Takes up what names lead to from a directory, and all that is below it if `deep`. -/
partial def follow (deep : Bool) (trail : Trail) : List String → TakeUp Unit
  | [] => if deep then below trail else return
  | name :: rest =>
    if name = "" || name = "." then follow deep trail rest
    else if name = ".." then follow deep trail.dropLast rest
    else do
      let here := trail ++ [name]
      match ← entryAt? here with
      | none => return
      | some entry =>
        place here entry
        match entry with
        | .link goal => follow deep [] (trailOf goal ++ rest)
        | .directory _ => follow deep here rest
        | .file _ => return

/-- Takes up what is in a directory. -/
partial def below (trail : Trail) : TakeUp Unit := do
  if (← get).whole.contains trail then return
  modify fun taken => { taken with whole := taken.whole.insert trail }
  for name in ← namesIn trail do
    follow true trail [name]

end

/-- Takes up what a path leads to. -/
def takePath (deep : Bool) (home : Trail) (path : String) : TakeUp Unit :=
  follow deep (if Path.isAbsolute path then [] else home) (Path.names path)

/-- Takes up what a request names. -/
def take (home : Trail) (r : AnalyzeRequest) : TakeUp Unit := do
  follow false [] home
  takePath false home (r.configuration.getD AnalyzeRequest.standardConfigurationPath)
  r.paths.forM (takePath true home)
  r.output.toList.forM (takePath false home)

/-- The file tree that a command line works in. -/
def treeFor (arguments : List String) : IO FileTree := do
  let home := trailOf (← IO.currentDir).toString
  let root ← match CommandLine.read arguments with
    | .ok (.analyze r) => (·.2.root) <$> (take home r).run ⟨.directory [], {}⟩
    | _ => pure (.directory [])
  return ⟨root, home⟩

/-- Writes the file that a run has written. -/
def keep (arguments : List String) (o : Outcome) : IO Unit := do
  let .ok (.analyze r) := CommandLine.read arguments | return
  let some path := r.output | return
  if o.exit = 0 then
    if let .ok text := o.tree.read path then
      let parent := Path.parent path
      if !parent.isEmpty then IO.FS.createDirAll parent
      IO.FS.writeFile path text

end Disk

/-- Runs a command line on the disk. -/
def runOnDisk (arguments : List String) : IO UInt32 := do
  let tree ← Disk.treeFor arguments
  let o := (CommandLine.run Parsers.parse tree arguments).run Parsers.initial |>.1
  Disk.keep arguments o
  IO.print o.output
  IO.eprint o.messages
  return o.exit.toUInt32

end CallAtlas

def main (arguments : List String) : IO UInt32 := CallAtlas.runOnDisk arguments
