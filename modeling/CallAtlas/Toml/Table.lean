import CallAtlas.Json.Basic

/-!
# Tables of TOML

A table remembers how it came about, because that decides whether it can be added
to: a table with a header of its own can not be opened again, a table that stands
inside a header can be opened once, a table made by dotted keys only takes more
dotted keys, and a table that stands as a value is closed.
-/

namespace CallAtlas

/-- How a table came about. -/
inductive TableOrigin where
  /-- With a header of its own, or the whole text. -/
  | header
  /-- As a part of a header. -/
  | implied
  /-- By dotted keys. -/
  | dotted
  deriving DecidableEq, Inhabited, Repr

/-- A value of TOML. -/
inductive Toml where
  | string (value : String)
  | integer (value : Int)
  | float (value : Float)
  | boolean (value : Bool)
  /-- A date, a time or both, of which only is known that it is one. -/
  | moment
  | array (items : List Toml)
  | table (origin : TableOrigin) (members : List (String × Toml))
  /-- A table that stands as a value. -/
  | inline (members : List (String × Toml))
  /-- A list of tables, the last first. -/
  | tables (items : List (List (String × Toml)))
  deriving Inhabited

namespace Toml

/-- The members of a table. -/
abbrev Members := List (String × Toml)

/-- The value of a key. -/
def get? (members : Members) (key : String) : Option Toml :=
  (members.find? (·.1 == key)).map (·.2)

/-- Gives a key a value, in its place or at the end. -/
def set (members : Members) (key : String) (value : Toml) : Members :=
  if members.any (·.1 == key) then
    members.map fun m => if m.1 == key then (key, value) else m
  else members ++ [(key, value)]

/-! ## Going down -/

/-- Changes the table to which a path of keys leads. Where there is nothing, a table
is made. Dotted keys do not lead through tables with headers of their own. -/
def descend (made : TableOrigin) (change : TableOrigin → Members → Option Members) :
    List String → TableOrigin → Members → Option Members
  | [], origin, members => change origin members
  | key :: path, _, members =>
    match get? members key with
    | none => do
      return set members key (.table made (← descend made change path made []))
    | some (.table origin inner) =>
      if made = .dotted ∧ origin = .header then none
      else do
        return set members key (.table origin (← descend made change path origin inner))
    | some (.tables (last :: earlier)) => do
      return set members key (.tables ((← descend made change path .header last) :: earlier))
    | some _ => none

/-! ## Adding -/

/-- Adds a value under a path of dotted keys. Only tables that dotted keys made take
values by dotted keys, and a key has one value. -/
def assign (path : List String) (key : String) (value : Toml) (members : Members) :
    Option Members :=
  descend .dotted (fun origin inner =>
    if (origin == .dotted) == path.isEmpty then none
    else if (get? inner key).isSome then none
    else some (inner ++ [(key, value)])) path .header members

/-- Opens the table of a header. -/
def openTable (path : List String) (key : String) (members : Members) : Option Members :=
  descend .implied (fun _ inner =>
    match get? inner key with
    | none => some (inner ++ [(key, .table .header [])])
    | some (.table .implied found) => some (set inner key (.table .header found))
    | some _ => none) path .header members

/-- Opens one more table of the list of a header. -/
def openItem (path : List String) (key : String) (members : Members) : Option Members :=
  descend .implied (fun _ inner =>
    match get? inner key with
    | none => some (inner ++ [(key, .tables [[]])])
    | some (.tables items) => some (set inner key (.tables ([] :: items)))
    | some _ => none) path .header members

/-- Changes the table that was opened last under a path. -/
def change (path : List String) (f : Members → Option Members) (members : Members) :
    Option Members :=
  descend .implied (fun _ inner => f inner) path .header members

/-! ## As data -/

mutual

/-- A value in the terms of JSON. -/
def toJson : Toml → Json Float
  | string s => .str s
  | integer n => .int n
  | float x => .real x
  | boolean b => .bool b
  | moment => .obj [("moment", .null)]
  | array items => .arr (listToJson items)
  | table _ members => .obj (membersToJson members)
  | inline members => .obj (membersToJson members)
  | tables items => .arr (tablesToJson items).reverse

/-- Values in the terms of JSON. -/
def listToJson : List Toml → List (Json Float)
  | [] => []
  | v :: rest => toJson v :: listToJson rest

/-- Members in the terms of JSON. -/
def membersToJson : List (String × Toml) → List (String × Json Float)
  | [] => []
  | (key, v) :: rest => (key, toJson v) :: membersToJson rest

/-- Tables in the terms of JSON. -/
def tablesToJson : List (List (String × Toml)) → List (Json Float)
  | [] => []
  | members :: rest => .obj (membersToJson members) :: tablesToJson rest

end

end Toml

end CallAtlas
