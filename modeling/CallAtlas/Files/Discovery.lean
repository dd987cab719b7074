import CallAtlas.Files.Glob
import CallAtlas.Files.Tree

/-!
# Finding files

The files to which some paths lead: a file itself, and of a directory all files below
it that match the patterns. Links are followed, except those to a directory that is
being walked through and those that lead nowhere. What stands in a directory is looked
up by its whole path, which can be too long or go through too many links. Nothing is
found in a directory whose names cannot be read.
-/

namespace CallAtlas

/-- Which files of a directory are taken. -/
structure Selection where
  include_ : List Glob
  exclude : List Glob
  deriving DecidableEq, Inhabited, Repr

namespace Selection

/-- Reads patterns. -/
def ofStrings (include_ exclude : List String) : Except GlobError Selection := do
  return ⟨← include_.mapM Glob.ofString, ← exclude.mapM Glob.ofString⟩

/-- Whether a path matches one of the patterns for what is taken and none for what is
not. -/
def accepts (s : Selection) (path : String) : Bool :=
  s.include_.any (·.accepts path) && !s.exclude.any (·.accepts path)

end Selection

namespace FileTree

/-- Whether a walk finds a file under a path. What is listed as a file is taken as one, and
a link as what it leads to. -/
def isFileAt (t : FileTree) (path : String) : Entry → Bool
  | .file _ => true
  | .link _ => t.isFile path
  | .directory _ => false

/-- The directory that a walk goes into under a path, if it does, and where that is. No link
leads into one of the directories `around`. -/
def entered? (t : FileTree) (around : List Trail) (path : String) (entry : Entry) :
    Option (Trail × List (String × Entry)) :=
  match t.find path with
  | .ok (goal, .directory inner) =>
    if entry.isLink && around.contains goal then none else some (goal, inner)
  | _ => none

/-- The members of a directory that a walk gets to see. `readable` says of which directories
the names can be read. -/
def seen (readable : Trail → Bool) (trail : Trail) (members : List (String × Entry)) :
    List (String × Entry) :=
  if readable trail then members else []

/-- The ways to the files below a directory, by the names that lead to them. `around`
are the directories that are being walked through, this one first; deeper directories
than `depth` are not entered. -/
def filesBelow (t : FileTree) (readable : Trail → Bool) :
    Nat → List Trail → String → List (String × Entry) → List Trail
  | 0, _, _, _ => []
  | depth + 1, around, path, members =>
    members.flatMap fun (name, entry) =>
      let below := Path.join path name
      if t.isFileAt below entry then [[name]]
      else match t.entered? around below entry with
        | some (goal, inner) =>
          (filesBelow t readable depth (goal :: around) below (seen readable goal inner)).map
            (name :: ·)
        | none => []

/-- Whether one way comes before another, name by name. -/
def precedes : Trail → Trail → Bool
  | [], _ => true
  | _ :: _, [] => false
  | a :: as, b :: bs => a < b || (a == b && precedes as bs)

/-- The files of a directory that are taken, in the order of their names. A path has fewer
names than bytes, so that no directory lies too deep. -/
def filesOf (t : FileTree) (readable : Trail → Bool) (s : Selection) (path : String)
    (trail : Trail) (members : List (String × Entry)) : List String :=
  let all := t.filesBelow readable Path.maxPathBytes [trail] path (seen readable trail members)
  let taken := all.filter fun names => s.accepts ("/".intercalate names)
  (taken.mergeSort precedes).map (Path.along path)

/-- The files to which paths lead, or the first path that leads nowhere. -/
def discover (t : FileTree) (readable : Trail → Bool) (s : Selection) :
    List String → Except String (List String)
  | [] => .ok []
  | path :: rest =>
    match t.find path with
    | .error _ => .error path
    | .ok (_, .file _) => (discover t readable s rest).map (path :: ·)
    | .ok (trail, entry) =>
      let found := t.filesOf readable s path trail (entry.members?.getD [])
      (discover t readable s rest).map (found ++ ·)

end FileTree

end CallAtlas
