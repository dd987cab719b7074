import CallAtlas.Toml.Scalar
import CallAtlas.Toml.Table

/-!
# Reading TOML

A text is a list of lines: empty ones, headers of tables, and keys with values. Of a
text that is no TOML nothing more is told.
-/

namespace CallAtlas

namespace Toml

/-- Values stand in fewer values than this, and a path has fewer keys. -/
def depthLimit : Nat := 80

/-! ## Keys -/

/-- A character of a key without marks. -/
def isBare (c : Char) : Bool := c.isAlphanum || c == '_' || c == '-'

/-- A key. -/
def key? (cs : List Char) : Option (String × List Char) :=
  match cs with
  | c :: _ =>
    if c = '"' || c = '\'' then quoted? cs
    else if isBare c then some (String.ofList (cs.takeWhile isBare), cs.dropWhile isBare)
    else none
  | [] => none

/-- Keys with points between them, behind `acc`, which is reversed; at most `fuel`. -/
def pathOnto (acc : List String) : Nat → List Char → Option (List String × List Char)
  | 0, _ => none
  | fuel + 1, cs => do
    let (key, rest) ← key? (skipSpace cs)
    match skipSpace rest with
    | '.' :: rest => pathOnto (key :: acc) fuel rest
    | rest => return ((key :: acc).reverse, rest)

/-- Keys with points between them: all but the last, and the last. -/
def path? (cs : List Char) : Option (List String × String × List Char) := do
  let (keys, rest) ← pathOnto [] (depthLimit - 1) cs
  return (keys.dropLast, ← keys.getLast?, rest)

/-! ## Values -/

/-- Without blanks, ends of lines and comments at the front, of which there are fewer
than `fuel`. -/
def skipLines : Nat → List Char → List Char
  | 0, cs => cs
  | fuel + 1, cs =>
    let cs := skipComment (skipSpace cs)
    match newline? cs with
    | some rest => skipLines fuel rest
    | none => cs

/-- Without blanks, ends of lines and comments at the front. -/
def skipAll (cs : List Char) : List Char := skipLines (cs.length + 1) cs

/-- A number or a time. -/
def number? (cs : List Char) : Option (Toml × List Char) :=
  match moment? cs with
  | some rest => some (.moment, rest)
  | none => match float? cs with
    | some (x, rest) => some (.float x, rest)
    | none => (integer? cs).map fun (n, rest) => (.integer n, rest)

/-- A value that is neither an array nor a table. -/
def scalar? (cs : List Char) : Option (Toml × List Char) :=
  match cs with
  | 't' :: 'r' :: 'u' :: 'e' :: rest => some (.boolean true, rest)
  | 'f' :: 'a' :: 'l' :: 's' :: 'e' :: rest => some (.boolean false, rest)
  | c :: _ =>
    if c = '"' || c = '\'' then (string? cs).map fun (s, rest) => (.string s, rest)
    else number? cs
  | [] => none

mutual

/-- A value. Each step of the reader takes a character, of which there are fewer than
`fuel`; `depth` values stand around it. -/
def value? (fuel depth : Nat) (cs : List Char) : Option (Toml × List Char) :=
  match fuel, cs with
  | 0, _ => none
  | fuel + 1, '[' :: rest =>
    if depth + 1 < depthLimit then itemsOnto fuel (depth + 1) [] (skipAll rest) else none
  | fuel + 1, '\x7b' :: rest =>
    if depth + 1 < depthLimit then
      match skipSpace rest with
      | '\x7d' :: rest => some (.inline [], rest)
      | rest => membersOnto fuel (depth + 1) [] rest
    else none
  | _, cs => scalar? cs

/-- The items of an array that are left. -/
def itemsOnto (fuel depth : Nat) (items : List Toml) (cs : List Char) :
    Option (Toml × List Char) :=
  match fuel, cs with
  | 0, _ => none
  | _, ']' :: rest => some (.array items.reverse, rest)
  | fuel + 1, cs => match value? fuel depth cs with
    | none => none
    | some (item, rest) => match skipAll rest with
      | ',' :: rest => itemsOnto fuel depth (item :: items) (skipAll rest)
      | ']' :: rest => some (.array (item :: items).reverse, rest)
      | _ => none

/-- The members of a table in braces that are left. -/
def membersOnto (fuel depth : Nat) (members : Members) (cs : List Char) :
    Option (Toml × List Char) :=
  match fuel, path? cs with
  | fuel + 1, some (path, key, '=' :: rest) => match value? fuel depth (skipSpace rest) with
    | none => none
    | some (value, rest) => match assign path key value members with
      | none => none
      | some members => match skipSpace rest with
        | ',' :: rest => membersOnto fuel depth members (skipSpace rest)
        | '\x7d' :: rest => some (.inline members, rest)
        | _ => none
  | _, _ => none

end

/-! ## Texts -/

/-- What has been read of a text: all tables, and the way to the one that is open. -/
structure Draft where
  members : Members
  opened : List String

/-- The rest after the end of a line, with or without a comment. -/
def lineEnd? (cs : List Char) : Option (List Char) :=
  match skipComment (skipSpace cs) with
  | [] => some []
  | rest => newline? rest

/-- Reads a header with one mark. -/
def header? (d : Draft) (cs : List Char) : Option (Draft × List Char) := do
  let (path, key, rest) ← path? cs
  let rest ← lineEnd? (← char? ']' rest)
  return (⟨← openTable path key d.members, path ++ [key]⟩, rest)

/-- Reads a header with two marks. -/
def itemHeader? (d : Draft) (cs : List Char) : Option (Draft × List Char) := do
  let (path, key, rest) ← path? cs
  let rest ← lineEnd? (← char? ']' (← char? ']' rest))
  return (⟨← openItem path key d.members, path ++ [key]⟩, rest)

/-- Reads a key with its value. -/
def assignment? (d : Draft) (cs : List Char) : Option (Draft × List Char) := do
  let (path, key, rest) ← path? cs
  let rest := skipSpace (← char? '=' rest)
  let (value, rest) ← value? (2 * rest.length + 1) 0 rest
  let rest ← lineEnd? rest
  return ({ d with members := ← change d.opened (assign path key value) d.members }, rest)

/-- Reads a line. -/
def line? (d : Draft) (cs : List Char) : Option (Draft × List Char) :=
  match skipSpace cs with
  | '[' :: '[' :: rest => itemHeader? d rest
  | '[' :: rest => header? d rest
  | rest => match lineEnd? rest with
    | some rest => some (d, rest)
    | none => assignment? d rest

/-- Reads all lines, of which there are fewer than `fuel`. -/
def lines (d : Draft) : Nat → List Char → Option Members
  | _, [] => some d.members
  | 0, _ => none
  | fuel + 1, cs => match line? d cs with
    | some (d, rest) => lines d fuel rest
    | none => none

/-- The tables of a text. A mark of the byte order at its front does not count. -/
def read? (text : String) : Option Members :=
  let cs := match text.toList with
    | '\uFEFF' :: rest => rest
    | cs => cs
  lines ⟨[], []⟩ (cs.length + 1) cs

end Toml

end CallAtlas
