import CallAtlas.Number.Basic

/-!
# Decimals of floats

The shortest decimal that reads back as a float: of all decimals in the interval of
numbers that round to the float those with the fewest digits, and of these the one
nearest to the float.

A float that is not zero is `m * 2 ^ q`. The interval around it goes halfway to its
two neighbours; the ends belong to it if `m` is even. On a decimal grid only the two
points next to the float have to be tried.
-/

namespace CallAtlas

/-- A number `digits * 10 ^ exponent`. -/
structure Decimal where
  negative : Bool
  digits : Nat
  exponent : Int
  deriving DecidableEq, Inhabited, Repr

namespace Decimal

open Number

/-! ## Reading floats apart -/

/-- The parts of a float that is finite. -/
structure Binary where
  negative : Bool
  mantissa : Nat
  exponent : Int
  deriving DecidableEq, Inhabited, Repr

/-- The parts of a float. -/
def Binary.ofFloat (x : Float) : Binary :=
  let bits := x.toBits.toNat
  let field := bits / power 2 52 % power 2 11
  let fraction := bits % power 2 52
  { negative := power 2 63 ≤ bits
    mantissa := if field = 0 then fraction else fraction + power 2 52
    exponent := ((if field = 0 then 1 else field : Nat) : Int) - 1075 }

/-! ## The shortest decimal -/

/-- A positive number `value`, and the interval `[low, high]` around it, all over one
denominator. -/
structure Range where
  low : Nat
  value : Nat
  high : Nat
  denominator : Nat
  /-- Whether the ends belong to the interval. -/
  closed : Bool

/-- The numbers that round to `m * 2 ^ q`. -/
def Range.ofBinary (m : Nat) (q : Int) : Range :=
  let below := if m = power 2 52 ∧ -1074 < q then 1 else 2
  let scale := power 2 (q - 2).toNat
  { low := (4 * m - below) * scale, value := 4 * m * scale, high := (4 * m + 2) * scale
    denominator := power 2 (2 - q).toNat, closed := m % 2 = 0 }

/-- The interval measured in units of `10 ^ e`. -/
def Range.inUnits (r : Range) (e : Int) : Range :=
  let scale := power 10 (-e).toNat
  { r with
      low := r.low * scale
      value := r.value * scale
      high := r.high * scale
      denominator := r.denominator * power 10 e.toNat }

/-- Whether a whole number of units is in the interval. -/
def Range.holds (r : Range) (n : Nat) : Bool :=
  let x := n * r.denominator
  if r.closed then r.low ≤ x && x ≤ r.high else r.low < x && x < r.high

/-- The nearest whole number of units in the interval, if there is one. -/
def Range.nearest? (r : Range) : Option Nat :=
  let down := r.value / r.denominator
  let up := down + 1
  let rest := 2 * (r.value % r.denominator)
  let first := if rest < r.denominator ∨ (rest = r.denominator ∧ down % 2 = 0) then down else up
  let second := if first = down then up else down
  if r.holds first && 0 < first then some first
  else if r.holds second && 0 < second then some second
  else none

/-- The exponent of the first digit of a positive quotient. -/
def leadingExponent (numerator denominator : Nat) : Int :=
  let guess := ((numerator.log2 : Int) - denominator.log2) * 30103 / 100000
  let atLeast := fun (e : Int) =>
    denominator * power 10 e.toNat ≤ numerator * power 10 (-e).toNat
  if !atLeast guess then guess - 1 else if atLeast (guess + 1) then guess + 1 else guess

/-- The shortest decimal in an interval, with at least `tried + 1` digits and at most
`tried + 1 + fuel`. -/
def shortestIn (r : Range) (leading : Int) : Nat → Nat → Nat × Int
  | 0, tried =>
    let e := leading - tried
    (((r.inUnits e).nearest?).getD 0, e)
  | fuel + 1, tried =>
    let e := leading - tried
    match (r.inUnits e).nearest? with
    | some n => (n, e)
    | none => shortestIn r leading fuel (tried + 1)

/-- Takes zeros off the end. -/
def stripZeros : Nat → Nat × Int → Nat × Int
  | 0, d => d
  | fuel + 1, (n, e) => if n ≠ 0 ∧ n % 10 = 0 then stripZeros fuel (n / 10, e + 1) else (n, e)

/-- Seventeen digits are enough for every float. -/
def maxDigits : Nat := 17

/-- The shortest decimal that reads back as a finite float. -/
def ofFloat (x : Float) : Decimal :=
  let b := Binary.ofFloat x
  if b.mantissa = 0 then ⟨b.negative, 0, 0⟩
  else
    let r := Range.ofBinary b.mantissa b.exponent
    let leading := leadingExponent r.value r.denominator
    let (digits, exponent) := stripZeros maxDigits (shortestIn r leading maxDigits 0)
    ⟨b.negative, digits, exponent⟩

/-! ## Reading decimals -/

/-- Exponents of the first digit from which a number is too large for a float. -/
def tooLarge : Int := 400

/-- Exponents of the first digit up to which a number is no more than zero. -/
def tooSmall : Int := -400

/-- The float nearest to a decimal. -/
def toFloat (d : Decimal) : Float :=
  let leading := (toString d.digits).length + d.exponent
  let x :=
    if d.digits = 0 || leading < tooSmall then 0.0
    else if tooLarge < leading then 1.0 / 0.0
    else if 0 ≤ d.exponent then Float.ofScientific d.digits false d.exponent.toNat
    else Float.ofScientific d.digits true (-d.exponent).toNat
  if d.negative then -x else x

end Decimal

end CallAtlas
