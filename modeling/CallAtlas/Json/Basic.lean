/-!
# JSON values

Values of the JSON data model. Whole numbers are told apart from numbers with a
fraction or an exponent; of what kind the latter are is left open.
-/

namespace CallAtlas

/-- A JSON value. -/
inductive Json (α : Type) where
  | null
  | bool (value : Bool)
  | int (value : Int)
  /-- A number with a fraction or an exponent. -/
  | real (value : α)
  | str (value : String)
  | arr (items : List (Json α))
  /-- An object; no two members have one name. -/
  | obj (members : List (String × Json α))
  deriving Inhabited, Repr

namespace Json

variable {α : Type}

/-- A natural number. -/
def nat (n : Nat) : Json α := int n

/-- A list of strings. -/
def strs (items : List String) : Json α := arr (items.map str)

/-- The value of a member of some members. -/
def lookup (members : List (String × Json α)) (name : String) : Option (Json α) :=
  (members.find? (·.1 == name)).map (·.2)

/-- Some members with one more, which takes the place of one with its name. -/
def put (members : List (String × Json α)) (name : String) (value : Json α) :
    List (String × Json α) :=
  if members.any (·.1 == name) then
    members.map fun m => if m.1 == name then (name, value) else m
  else members ++ [(name, value)]

/-- A member that is left out where there is no value. -/
def optionalMember (name : String) : Option (Json α) → List (String × Json α)
  | some value => [(name, value)]
  | none => []

end Json

end CallAtlas
