/-!
# White space

The characters with Unicode's property White_Space, and texts without such
characters at their ends.
-/

namespace CallAtlas

namespace Blank

/-- The property White_Space. -/
def isBlank (c : Char) : Bool :=
  let n := c.toNat
  (9 ≤ n && n ≤ 13) || n == 0x20 || n == 0x85 || n == 0xA0 || n == 0x1680 ||
    (0x2000 ≤ n && n ≤ 0x200A) || n == 0x2028 || n == 0x2029 || n == 0x202F || n == 0x205F ||
    n == 0x3000

/-- Without leading characters of a kind. -/
def dropStart (p : Char → Bool) (s : String) : String := String.ofList (s.toList.dropWhile p)

/-- Without trailing characters of a kind. -/
def dropEnd (p : Char → Bool) (s : String) : String :=
  String.ofList (s.toList.reverse.dropWhile p).reverse

/-- Without characters of a kind at either end. -/
def dropEnds (p : Char → Bool) (s : String) : String := dropEnd p (dropStart p s)

/-- Without white space at either end. -/
def trim (s : String) : String := dropEnds isBlank s

/-- Without white space at the end. -/
def trimEnd (s : String) : String := dropEnd isBlank s

/-- Whether there is nothing but white space. -/
def isEmpty (s : String) : Bool := s.all isBlank

end Blank

end CallAtlas
