/-!
# File trees

Files, links and directories as a value, and how paths lead through it. A link stands
for its target, which is read from the directory that holds the link.
-/

namespace CallAtlas

/-- What stands under a name. -/
inductive Entry where
  | file (content : ByteArray)
  | link (target : String)
  | directory (members : List (String × Entry))
  deriving Inhabited

/-- Why something cannot be done with a path. -/
inductive PathFault where
  | missing
  | noDirectory
  | isDirectory
  | exists
  | manyLinks
  | longName
  | noPath
  | noText
  deriving DecidableEq, Inhabited, Repr

namespace PathFault

/-- What is said of it. -/
def message : PathFault → String
  | missing => "No such file or directory (os error 2)"
  | noDirectory => "Not a directory (os error 20)"
  | isDirectory => "Is a directory (os error 21)"
  | «exists» => "File exists (os error 17)"
  | manyLinks => "Too many levels of symbolic links (os error 40)"
  | longName => "File name too long (os error 36)"
  | noPath => "file name contained an unexpected NUL byte"
  | noText => "stream did not contain valid UTF-8"

end PathFault

/-- A way from the root by names only. -/
abbrev Trail := List String

/-- A tree of files and the directory from which paths start. -/
structure FileTree where
  root : Entry
  home : Trail
  deriving Inhabited

namespace Entry

/-- The members of a directory. -/
def members? : Entry → Option (List (String × Entry))
  | directory ms => some ms
  | _ => none

/-- Whether something is a link. -/
def isLink : Entry → Bool
  | link _ => true
  | _ => false

/-- What stands under a name among some members. -/
def member? (ms : List (String × Entry)) (name : String) : Option Entry :=
  (ms.find? (·.1 == name)).map (·.2)

/-- What stands under a name in a directory. -/
def child? (e : Entry) (name : String) : Option Entry := e.members?.bind (member? · name)

/-- What stands at the end of a way. -/
def at? (e : Entry) : Trail → Option Entry
  | [] => some e
  | name :: rest => (e.child? name).bind fun c => c.at? rest

end Entry

/-! ## Paths -/

namespace Path

/-- The names of a path, with what stands for the same directory and for the one
above. -/
@[irreducible]
def names (path : String) : List String := (path.toList.splitOn '/').map String.ofList

/-- Whether a path starts at the root. -/
def isAbsolute (path : String) : Bool := path.toList.head? == some '/'

/-- A path and a name in the directory that it leads to. -/
def join (path name : String) : String :=
  if path.isEmpty || path.toList.getLast? == some '/' then path ++ name else path ++ "/" ++ name

/-- A path and some names that lead on from it. -/
def along (path : String) (names : List String) : String := names.foldl join path

/-- The most bytes of a name. -/
def maxNameBytes : Nat := 255

/-- The most bytes of a path. -/
def maxPathBytes : Nat := 4095

/-- The most links that are followed for one path. -/
def maxLinks : Nat := 40

/-- The fault of a path that leads nowhere in any tree. -/
def fault? (path : String) : Option PathFault :=
  if path.any (· == '\x00') then some .noPath
  else if path.isEmpty then some .missing
  else if maxPathBytes < path.utf8ByteSize then some .longName
  else none

/-- A path without its last name and what stands behind it; nothing for a path that
has only one name. -/
def parent (path : String) : String :=
  let isOpen := fun (n : String) => n == "" || n == "."
  let kept := (((names path).reverse.dropWhile isOpen).drop 1).dropWhile isOpen
  if kept.isEmpty && isAbsolute path then "/" else "/".intercalate kept.reverse

end Path

/-! ## Following paths -/

namespace FileTree

/-- Where a path leads: to something, or to a free name in a directory. -/
inductive Goal where
  | found (trail : Trail) (entry : Entry)
  | free (directory : Trail) (name : String)
  deriving Inhabited

/-- Follows names from a directory, at most `links` links. If `last` is false, a link
at the end is not followed. -/
def follow (root : Entry) (last : Bool) (links : Nat) (trail : Trail) (names : List String) :
    Except PathFault Goal :=
  match names with
  | [] => match root.at? trail with
    | some e => .ok (.found trail e)
    | none => .error .missing
  | name :: rest =>
    match root.at? trail with
    | some (.directory ms) =>
      if name = "" || name = "." then follow root last links trail rest
      else if name = ".." then follow root last links trail.dropLast rest
      else if Path.maxNameBytes < name.utf8ByteSize then .error .longName
      else match Entry.member? ms name with
        | none => if rest.isEmpty then .ok (.free trail name) else .error .missing
        | some (.link target) =>
          if rest.isEmpty && !last then .ok (.found (trail ++ [name]) (.link target))
          else match links with
            | 0 => .error .manyLinks
            | links + 1 =>
              let start := if Path.isAbsolute target then [] else trail
              follow root last links start (Path.names target ++ rest)
        | some _ => follow root last links (trail ++ [name]) rest
    | some _ => .error .noDirectory
    | none => .error .missing
termination_by (links, names.length)

/-- Where a path leads. -/
def goal (t : FileTree) (path : String) (last : Bool) : Except PathFault Goal :=
  match Path.fault? path with
  | some f => .error f
  | none =>
    let start := if Path.isAbsolute path then [] else t.home
    follow t.root last Path.maxLinks start (Path.names path)

/-- What a path leads to. -/
def find (t : FileTree) (path : String) : Except PathFault (Trail × Entry) :=
  match t.goal path true with
  | .ok (.found trail e) => .ok (trail, e)
  | .ok (.free _ _) => .error .missing
  | .error f => .error f

/-- Whether a path leads to something. -/
def holds (t : FileTree) (path : String) : Bool :=
  match t.find path with
  | .ok _ => true
  | .error _ => false

/-- Whether a path leads to a file. -/
def isFile (t : FileTree) (path : String) : Bool :=
  match t.find path with
  | .ok (_, .file _) => true
  | _ => false

/-- Whether a path leads to a directory. -/
def isDirectory (t : FileTree) (path : String) : Bool :=
  match t.find path with
  | .ok (_, .directory _) => true
  | _ => false

/-- The text of the file to which a path leads. -/
def read (t : FileTree) (path : String) : Except PathFault String :=
  match t.find path with
  | .ok (_, .file content) => match String.fromUTF8? content with
    | some text => .ok text
    | none => .error .noText
  | .ok _ => .error .isDirectory
  | .error f => .error f

end FileTree

end CallAtlas
