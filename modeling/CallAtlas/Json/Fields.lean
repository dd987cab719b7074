import CallAtlas.Json.Basic
import CallAtlas.Layout.Measure
import CallAtlas.Number.Basic

/-!
# Reading records

A record is written as an object, or as the list of its fields in order. Fields that
are not known are passed over.
-/

namespace CallAtlas

namespace Json

variable {α β : Type}

/-- How a format writes what records are made of. -/
structure Conventions (α : Type) where
  /-- Whether a value may stand behind the name of a choice in an object. -/
  isNothing : Json α → Bool
  /-- Whether a list may hold no more than the fields of the record. -/
  exactLists : Bool

/-- The conventions of JSON texts. -/
def Conventions.json : Conventions α :=
  { isNothing := fun v => match v with
      | .null => true
      | _ => false
    exactLists := true }

/-! ## Single values -/

/-- A string. -/
def string? : Json α → Option String
  | .str s => some s
  | _ => none

/-- A truth value. -/
def bool? : Json α → Option Bool
  | .bool b => some b
  | _ => none

/-- A natural number below a bound. -/
def natBelow? (bound : Nat) : Json α → Option Nat
  | .int n => if 0 ≤ n ∧ n < bound then some n.toNat else none
  | _ => none

/-- A number of 64 bits. -/
def size? : Json α → Option Nat := natBelow? (Number.wordBound 64)

/-- A number of 32 bits. -/
def score? : Json α → Option Nat := natBelow? (Number.wordBound 32)

/-- A measure. -/
def measure? [Measure α] : Json α → Option α
  | .real x => some x
  | .int n => some (Measure.ofInt n)
  | _ => none

/-- A value that may be missing. -/
def maybe? (read : Json α → Option β) : Json α → Option (Option β)
  | .null => some none
  | v => (read v).map some

/-- A list. -/
def list? (read : Json α → Option β) : Json α → Option (List β)
  | .arr items => items.mapM read
  | _ => none

/-- One of some names: a string, or an object with that member and nothing in it. -/
def choice? (c : Conventions α) (choices : List (String × β)) : Json α → Option β
  | .str s => (choices.find? (·.1 == s)).map (·.2)
  | .obj [(name, v)] =>
    if c.isNothing v then (choices.find? (·.1 == name)).map (·.2) else none
  | _ => none

/-! ## Records -/

/-- The fields of a record that are still to be read. -/
inductive Fields (α : Type) where
  | named (members : List (String × Json α))
  | listed (items : List (Json α))

/-- Reads a field. -/
def field (name : String) (read : Json α → Option β) : StateT (Fields α) Option β
  | .named members => do
    return (← (lookup members name).bind read, .named members)
  | .listed (item :: rest) => do
    return (← read item, .listed rest)
  | .listed [] => none

/-- Reads a field that may be left out. -/
def fieldOr (default : β) (name : String) (read : Json α → Option β) :
    StateT (Fields α) Option β
  | .named members => match lookup members name with
    | some v => do return (← read v, .named members)
    | none => some (default, .named members)
  | .listed (item :: rest) => do
    return (← read item, .listed rest)
  | .listed [] => some (default, .listed [])

/-- Reads a record. -/
def record? (c : Conventions α) (read : StateT (Fields α) Option β) : Json α → Option β
  | .obj members => (read (.named members)).map (·.1)
  | .arr items => match read (.listed items) with
    | some (b, .listed []) => some b
    | some (b, _) => if c.exactLists then none else some b
    | none => none
  | _ => none

end Json

end CallAtlas
