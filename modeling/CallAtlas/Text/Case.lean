import CallAtlas.Text.CaseTable

/-!
# Capital and small letters

Texts in capital and in small letters, by Unicode's full case mappings.
-/

namespace CallAtlas

namespace Case

/-- Whether a code point is in one of some ranges. -/
def inRanges (ranges : List (Nat × Nat)) (n : Nat) : Bool :=
  ranges.any fun (first, last) => first ≤ n && n ≤ last

/-- The image of a code point under some runs. -/
def image? (runs : List (Nat × Nat × Nat × Nat)) (n : Nat) : Option Nat :=
  (runs.find? fun (first, last, step, _) =>
    first ≤ n && n ≤ last && (n - first) % step == 0).map
    fun (first, _, _, image) => image + (n - first)

/-- The small letters of a character, which is no sigma. -/
def small (c : Char) : List Char :=
  if c.toNat < 0x80 then [c.toLower]
  else if c = 'İ' then ['i', '\u0307']
  else [Char.ofNat ((image? CaseTable.small c.toNat).getD c.toNat)]

/-- The capital letters of a character. -/
def capital (c : Char) : List Char :=
  if c.toNat < 0x80 then [c.toUpper]
  else match CaseTable.capitals.find? (·.1 == c.toNat) with
    | some (_, letters) => letters.map Char.ofNat
    | none => [Char.ofNat ((image? CaseTable.capital c.toNat).getD c.toNat)]

/-- Whether the first character that counts is a letter with a case. -/
def meetsCased (cs : List Char) : Bool :=
  match cs.dropWhile fun c => inRanges CaseTable.ignorable c.toNat with
  | c :: _ => inRanges CaseTable.cased c.toNat
  | [] => false

/-- The small letters of a text, `before` being the characters before it, the nearest
first. A sigma at the end of a word has a form of its own. -/
def smallAll (before : List Char) : List Char → List Char
  | [] => []
  | c :: rest =>
    let here :=
      if c = 'Σ' then [if meetsCased before && !meetsCased rest then 'ς' else 'σ'] else small c
    here ++ smallAll (c :: before) rest

/-- A text in small letters. -/
def toSmall (s : String) : String := String.ofList (smallAll [] s.toList)

/-- A text in capital letters. -/
def toCapital (s : String) : String := String.ofList (s.toList.flatMap capital)

end Case

end CallAtlas
