/-!
# Sets of characters

A set of code points is kept as the ascending list of the points at which
membership changes, starting outside: `[97, 123]` is `a` to `z`. Every Boolean
combination of two sets is then one merge of two lists, and equal sets have
equal lists.
-/

namespace CallAtlas

/-- A set of code points, as the points where membership flips. -/
structure CharSet where
  flips : List Nat
  deriving DecidableEq, Hashable, Inhabited, Repr

namespace CharSet

/-- One past the largest code point. -/
def limit : Nat := 0x110000

/-- The set without members. -/
def empty : CharSet := ⟨[]⟩

/-- The code points from `lo` to `hi`, both included. -/
def codes (lo hi : Nat) : CharSet := ⟨[lo, hi + 1]⟩

/-- The characters from `lo` to `hi`, both included. -/
def range (lo hi : Char) : CharSet := codes lo.toNat hi.toNat

/-- The set of one character. -/
def single (c : Char) : CharSet := codes c.toNat c.toNat

/-- Whether an odd number of flips lies at or before the code point. -/
def containsCode (s : CharSet) (n : Nat) : Bool :=
  go s.flips false
where
  go : List Nat → Bool → Bool
    | [], inside => inside
    | f :: rest, inside => if n < f then inside else go rest (!inside)

/-- Membership of a character. -/
def contains (s : CharSet) (c : Char) : Bool := s.containsCode c.toNat

/-- Merges two flip lists: a flip is kept where the combination of the two
memberships changes. -/
def merge (f : Bool → Bool → Bool) : Bool → Bool → List Nat → List Nat → List Nat
  | _, _, [], [] => []
  | l, r, x :: xs, [] =>
    let rest := merge f (!l) r xs []
    if f l r = f (!l) r then rest else x :: rest
  | l, r, [], y :: ys =>
    let rest := merge f l (!r) [] ys
    if f l r = f l (!r) then rest else y :: rest
  | l, r, x :: xs, y :: ys =>
    if x < y then
      let rest := merge f (!l) r xs (y :: ys)
      if f l r = f (!l) r then rest else x :: rest
    else if y < x then
      let rest := merge f l (!r) (x :: xs) ys
      if f l r = f l (!r) then rest else y :: rest
    else
      let rest := merge f (!l) (!r) xs ys
      if f l r = f (!l) (!r) then rest else x :: rest
termination_by _ _ xs ys => xs.length + ys.length

/-- The members of either set. -/
def union (a b : CharSet) : CharSet := ⟨merge or false false a.flips b.flips⟩

/-- The members of both sets. -/
def inter (a b : CharSet) : CharSet := ⟨merge and false false a.flips b.flips⟩

/-- The members of the first set that are not in the second. -/
def diff (a b : CharSet) : CharSet :=
  ⟨merge (fun x y => x && !y) false false a.flips b.flips⟩

/-- Whether the set has no member. -/
def isEmpty (s : CharSet) : Bool := s.flips.isEmpty

/-- The first member, where there is one. -/
def first? (s : CharSet) : Option Nat := s.flips.head?

/-- Whether the set has a member outside ASCII. -/
def reachesBeyondAscii (s : CharSet) : Bool := !(s.inter (codes 128 (limit - 1))).isEmpty

/-- The union of a list of sets. -/
def unions (sets : List CharSet) : CharSet := sets.foldl union empty

/-- The characters of a string. -/
def ofString (text : String) : CharSet := unions (text.toList.map single)

/-- Every character except NUL and the members of the set. NUL stands for the
end of the text wherever text is read, so no class of other characters holds it. -/
def except (s : CharSet) : CharSet := (codes 1 (limit - 1)).diff s

/-! ## The classes that the grammars name -/

/-- Decimal digits. -/
def digit : CharSet := range '0' '9'

/-- Hexadecimal digits. -/
def hexDigit : CharSet := unions [digit, range 'a' 'f', range 'A' 'F']

/-- Octal digits. -/
def octalDigit : CharSet := range '0' '7'

/-- ASCII letters. -/
def letter : CharSet := union (range 'a' 'z') (range 'A' 'Z')

/-- ASCII white space: tab to carriage return, and the blank. -/
def asciiBlank : CharSet := union (codes 9 13) (single ' ')

/-- The separators of Unicode's category Zs. -/
def spaceSeparator : CharSet :=
  unions [single ' ', codes 0xA0 0xA0, codes 0x1680 0x1680, codes 0x2000 0x200A,
    codes 0x202F 0x202F, codes 0x205F 0x205F, codes 0x3000 0x3000]

/-- Marks that are skipped like blanks: byte order mark, line and paragraph
separator, word joiner and zero width space. -/
def invisible : CharSet :=
  unions [codes 0xFEFF 0xFEFF, codes 0x2028 0x2029, codes 0x2060 0x2060, codes 0x200B 0x200B]

/-- What may stand between two tokens. -/
def separator : CharSet := unions [asciiBlank, spaceSeparator, invisible]

/-- The line and paragraph separators. -/
def lineSeparator : CharSet := codes 0x2028 0x2029

/-- The ends of a line. -/
def lineEnd : CharSet := unions [single '\r', single '\n', lineSeparator]

end CharSet

end CallAtlas
