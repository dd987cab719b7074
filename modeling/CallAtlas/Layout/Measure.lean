/-!
# Measures

The numbers in which sizes and positions are measured. Layouts are defined for all
of them alike; programs measure in floats.
-/

namespace CallAtlas

/-- Numbers that measure lengths. -/
class Measure (α : Type) extends Add α, Sub α, Mul α, Div α where
  /-- A whole number. -/
  ofInt : Int → α
  /-- The larger of two numbers. -/
  larger : α → α → α
  /-- The smaller of two numbers. -/
  smaller : α → α → α
  /-- Whether the first number is smaller than the second. -/
  isBelow : α → α → Bool
  /-- Whether a number is one that can be reckoned with. -/
  isFinite : α → Bool

/-- Measures with angles. -/
class AngularMeasure (α : Type) extends Measure α where
  /-- Half the way around a circle of radius one. -/
  halfTurn : α
  cosine : α → α
  sine : α → α

namespace Measure

variable {α : Type} [Measure α]

/-- A natural number. -/
def ofNat (n : Nat) : α := ofInt n

/-- Nothing. -/
def zero : α := ofNat 0

/-- Half of a number. -/
def half (x : α) : α := x / ofNat 2

/-- The sum of some numbers, from the first on. -/
def sum (xs : List α) : α := xs.foldl (· + ·) zero

/-- The largest of some numbers, at least zero. -/
def largest (xs : List α) : α := xs.foldl larger zero

end Measure

/-- Of two floats the larger one, the first if they are equal, and the other one if
one of them is no number. -/
def Float.larger (x y : Float) : Float := if x.isNaN || x < y then y else x

/-- Of two floats the smaller one, the first if they are equal, and the other one if
one of them is no number. -/
def Float.smaller (x y : Float) : Float := if x.isNaN || y < x then y else x

/-- Half a turn to the last bit of a float. -/
def Float.halfTurn : Float := 3.141592653589793

instance : AngularMeasure Float where
  ofInt := Float.ofInt
  larger := Float.larger
  smaller := Float.smaller
  isBelow x y := x < y
  isFinite := Float.isFinite
  halfTurn := Float.halfTurn
  cosine := Float.cos
  sine := Float.sin

end CallAtlas
