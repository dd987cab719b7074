import CallAtlas.Number.Basic

/-!
# Sets of tokens

A set of terminal symbols as the bits of a number.
-/

namespace CallAtlas

/-- A set of small numbers: `n` is a member where bit `n` is set. -/
structure TokenSet where
  bits : Nat
  deriving DecidableEq, Inhabited, Repr

namespace TokenSet

/-- The set without members. -/
def empty : TokenSet := ⟨0⟩

/-- The set of one number. -/
def single (n : Nat) : TokenSet := ⟨1 <<< n⟩

/-- The members of either set. -/
def union (a b : TokenSet) : TokenSet := ⟨a.bits ||| b.bits⟩

/-- The members of both sets. -/
def inter (a b : TokenSet) : TokenSet := ⟨a.bits &&& b.bits⟩

/-- Membership. -/
def contains (s : TokenSet) (n : Nat) : Bool := s.bits.testBit n

/-- The set with one more number. -/
def insert (s : TokenSet) (n : Nat) : TokenSet := s.union (single n)

/-- Whether the set has no member. -/
def isEmpty (s : TokenSet) : Bool := s.bits == 0

/-- The numbers of a list. -/
def ofList (ns : List Nat) : TokenSet := ns.foldl insert empty

/-- The members of the first set that are not in the second. -/
def diff (a b : TokenSet) : TokenSet := ⟨a.bits ^^^ (a.bits &&& b.bits)⟩

/-- The members below a bound, in ascending order, before those of `acc`. -/
def below (bits : Nat) (acc : List Nat) : List Nat :=
  if _h : bits = 0 then acc
  else below (bits - Number.power 2 bits.log2) (bits.log2 :: acc)
termination_by bits
decreasing_by exact Nat.sub_lt (Nat.pos_of_ne_zero _h) (Nat.two_pow_pos _)

/-- The members in ascending order. -/
def toList (s : TokenSet) : List Nat := below s.bits []

instance : Hashable TokenSet where
  hash s := mixHash s.bits.toUInt64
    (mixHash (s.bits >>> 64).toUInt64 (mixHash (s.bits >>> 128).toUInt64 (s.bits >>> 192).toUInt64))

end TokenSet

end CallAtlas
