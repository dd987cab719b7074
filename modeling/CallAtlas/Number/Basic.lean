/-!
# Powers and sums

Powers of natural numbers, which bound words and measure decimals, and sums of lists.
-/

namespace CallAtlas

namespace Number

/-- A power of a base. -/
def power (base exponent : Nat) : Nat := Nat.pow base exponent

/-- How many numbers a word of some bits can hold: the first that is too large. -/
def wordBound (bits : Nat) : Nat := power 2 bits

/-- The sum of some numbers. -/
def total : List Nat → Nat
  | [] => 0
  | n :: rest => n + total rest

end Number

end CallAtlas
