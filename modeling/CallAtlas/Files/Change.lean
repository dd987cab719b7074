import CallAtlas.Files.Tree

/-!
# Changing file trees

Making directories and writing files.
-/

namespace CallAtlas

namespace Entry

/-- Members with one of them changed, or one more at the end. -/
def setMember (ms : List (String × Entry)) (name : String) (e : Entry) : List (String × Entry) :=
  if ms.any (·.1 == name) then ms.map fun m => if m.1 == name then (name, e) else m
  else ms ++ [(name, e)]

/-- Puts something at the end of a way. The way up to it is there. -/
def put (e : Entry) (new : Entry) : Trail → Entry
  | [] => new
  | name :: rest => match e with
    | directory ms => match member? ms name with
      | some c => directory (setMember ms name (c.put new rest))
      | none => if rest.isEmpty then directory (setMember ms name new) else e
    | _ => e

end Entry

namespace FileTree

/-- The tree with something new at the end of a way. -/
def put (t : FileTree) (trail : Trail) (new : Entry) : FileTree :=
  { t with root := t.root.put new trail }

/-- Whether a path ends with a mark for a directory. -/
def endsOpen (path : String) : Bool := path.toList.getLast? == some '/'

/-- Makes a directory. -/
def makeDirectory (t : FileTree) (path : String) : Except PathFault FileTree :=
  let closed := String.ofList (path.toList.reverse.dropWhile (· == '/')).reverse
  match t.goal (if closed.isEmpty then path else closed) false with
  | .ok (.found _ _) => .error .exists
  | .ok (.free trail name) => .ok (t.put (trail ++ [name]) (.directory []))
  | .error f => .error f

/-- Makes a directory and those above it that are missing, of which there are fewer
than `fuel`. The tree that comes out has those that could be made. -/
def makeDirectories (t : FileTree) : Nat → String → FileTree × Option PathFault
  | 0, _ => (t, some .missing)
  | fuel + 1, path =>
    if path.isEmpty then (t, none)
    else match t.makeDirectory path with
      | .ok t => (t, none)
      | .error .missing =>
        match t.makeDirectories fuel (Path.parent path) with
        | (t, some f) => (t, some f)
        | (t, none) => match t.makeDirectory path with
          | .ok t => (t, none)
          | .error f => (t, if t.isDirectory path then none else some f)
      | .error f => (t, if t.isDirectory path then none else some f)

/-- Writes a file, in place of one that is there. -/
def write (t : FileTree) (path : String) (content : ByteArray) : Except PathFault FileTree :=
  match t.goal path true with
  | .ok (.found trail (.file _)) => .ok (t.put trail (.file content))
  | .ok (.found _ _) => .error .isDirectory
  | .ok (.free trail name) => .ok (t.put (trail ++ [name]) (.file content))
  | .error f =>
    if f = .missing && endsOpen path then
      match t.goal (Path.parent path) true with
      | .ok (.found _ (.directory _)) => .error .isDirectory
      | _ => .error f
    else .error f

end FileTree

end CallAtlas
