import CallAtlas.Decimal.Shortest
import CallAtlas.Json.Basic
import CallAtlas.Number.Basic

/-!
# Reading JSON

A text that is one JSON value. Whole numbers outside the range of 64 bits, and zero
with a sign, are read as floats. Of several members with one name the last counts.
-/

namespace CallAtlas

namespace Json

/-- Without white space at the front. -/
def skipSpace (cs : List Char) : List Char :=
  cs.dropWhile fun c => c == ' ' || c == '\n' || c == '\r' || c == '\t'

/-! ## Numbers -/

/-- The number that digits write, behind the number `n`. -/
def digitsOnto (n : Nat) : List Char → Nat × List Char
  | [] => (n, [])
  | c :: cs => if c.isDigit then digitsOnto (n * 10 + (c.toNat - '0'.toNat)) cs else (n, c :: cs)

/-- Digits behind a point: the number with them and how many they are. -/
def fractionOnto (n count : Nat) : List Char → Nat × Nat × List Char
  | [] => (n, count, [])
  | c :: cs =>
    if c.isDigit then fractionOnto (n * 10 + (c.toNat - '0'.toNat)) (count + 1) cs
    else (n, count, c :: cs)

/-- Reads an exponent. -/
def exponent? : List Char → Option (Int × List Char)
  | '-' :: c :: cs =>
    if c.isDigit then
      let (n, rest) := digitsOnto 0 (c :: cs)
      some (-(n : Int), rest)
    else none
  | '+' :: c :: cs =>
    if c.isDigit then
      let (n, rest) := digitsOnto 0 (c :: cs)
      some (n, rest)
    else none
  | c :: cs =>
    if c.isDigit then
      let (n, rest) := digitsOnto 0 (c :: cs)
      some (n, rest)
    else none
  | [] => none

/-- A whole number, or a float if it is out of range. -/
def ofWhole (negative : Bool) (n : Nat) : Json Float :=
  let inRange :=
    if negative then 0 < n && n ≤ Number.wordBound 63 else n < Number.wordBound 64
  if inRange then .int (if negative then -(n : Int) else n)
  else .real (Decimal.toFloat ⟨negative, n, 0⟩)

/-- Reads a number without its sign. -/
def number? (negative : Bool) : List Char → Option (Json Float × List Char)
  | c :: cs =>
    if !c.isDigit then none
    else
      let (whole, rest) := if c = '0' then (0, cs) else digitsOnto 0 (c :: cs)
      let (digits, count, rest, pointed) := match rest with
        | '.' :: rest =>
          let (digits, count, rest) := fractionOnto whole 0 rest
          (digits, count, rest, true)
        | rest => (whole, 0, rest, false)
      if pointed && count = 0 then none
      else match rest with
        | e :: rest =>
          if e = 'e' || e = 'E' then do
            let (exponent, rest) ← exponent? rest
            return (.real (Decimal.toFloat ⟨negative, digits, exponent - count⟩), rest)
          else if pointed then
            some (.real (Decimal.toFloat ⟨negative, digits, -(count : Int)⟩), e :: rest)
          else some (ofWhole negative whole, e :: rest)
        | [] =>
          if pointed then some (.real (Decimal.toFloat ⟨negative, digits, -(count : Int)⟩), [])
          else some (ofWhole negative whole, [])
  | [] => none

/-! ## Strings -/

/-- The value of a digit below sixteen. -/
def hexValue? (c : Char) : Option Nat :=
  if c.isDigit then some (c.toNat - '0'.toNat)
  else if 'a' ≤ c && c ≤ 'f' then some (c.toNat - 'a'.toNat + 10)
  else if 'A' ≤ c && c ≤ 'F' then some (c.toNat - 'A'.toNat + 10)
  else none

/-- Four digits below sixteen. -/
def hex4? : List Char → Option (Nat × List Char)
  | a :: b :: c :: d :: rest => do
    return ((← hexValue? a) * 4096 + (← hexValue? b) * 256 + (← hexValue? c) * 16 +
      (← hexValue? d), rest)
  | _ => none

/-- The character that an escape with one letter stands for. -/
def simpleEscape? (c : Char) : Option Char :=
  if c = '"' || c = '\\' || c = '/' then some c
  else if c = 'n' then some '\n'
  else if c = 'r' then some '\r'
  else if c = 't' then some '\t'
  else if c = 'b' then some '\x08'
  else if c = 'f' then some '\x0c'
  else none

/-- The character that one or two numbers of sixteen bits stand for, behind the
letter of an escape. -/
def unicodeEscape? (cs : List Char) : Option (Char × List Char) := do
  let (first, rest) ← hex4? cs
  if 0xD800 ≤ first && first < 0xDC00 then
    match rest with
    | '\\' :: 'u' :: rest =>
      let (second, rest) ← hex4? rest
      if 0xDC00 ≤ second && second < 0xE000 then
        return (Char.ofNat (0x10000 + (first - 0xD800) * 0x400 + (second - 0xDC00)), rest)
      else none
    | _ => none
  else if 0xDC00 ≤ first && first < 0xE000 then none
  else return (Char.ofNat first, rest)

/-- Reads a string behind its opening mark, at most `fuel` characters. -/
def stringOnto (out : String) : Nat → List Char → Option (String × List Char)
  | 0, _ => none
  | _, [] => none
  | fuel + 1, c :: cs =>
    if c = '"' then some (out, cs)
    else if c = '\\' then
      match cs with
      | 'u' :: rest => match unicodeEscape? rest with
        | some (c, rest) => stringOnto (out.push c) fuel rest
        | none => none
      | e :: rest => match simpleEscape? e with
        | some c => stringOnto (out.push c) fuel rest
        | none => none
      | [] => none
    else if c.toNat < 0x20 then none
    else stringOnto (out.push c) fuel cs

/-! ## Values -/

/-- Reads a word. -/
def word? (word : List Char) (value : Json Float) (cs : List Char) :
    Option (Json Float × List Char) :=
  if word.isPrefixOf cs then some (value, cs.drop word.length) else none

mutual

/-- Reads a value. Each step of the reader takes at least one character, of which
there are fewer than `fuel`. -/
def value? (fuel : Nat) (cs : List Char) : Option (Json Float × List Char) :=
  match fuel, skipSpace cs with
  | 0, _ => none
  | _, [] => none
  | fuel + 1, c :: cs =>
    if c = '\x7b' then
      match skipSpace cs with
      | '\x7d' :: rest => some (.obj [], rest)
      | rest => membersOnto fuel [] rest
    else if c = '[' then
      match skipSpace cs with
      | ']' :: rest => some (.arr [], rest)
      | rest => itemsOnto fuel [] rest
    else if c = '"' then (stringOnto "" (fuel + 1) cs).map fun (s, rest) => (.str s, rest)
    else if c = '-' then number? true cs
    else if c = 't' then word? ['r', 'u', 'e'] (.bool true) cs
    else if c = 'f' then word? ['a', 'l', 's', 'e'] (.bool false) cs
    else if c = 'n' then word? ['u', 'l', 'l'] .null cs
    else number? false (c :: cs)

/-- Reads the items of a list that are left. -/
def itemsOnto (fuel : Nat) (items : List (Json Float)) (cs : List Char) :
    Option (Json Float × List Char) :=
  match fuel with
  | 0 => none
  | fuel + 1 => match value? fuel cs with
    | none => none
    | some (item, rest) => match skipSpace rest with
      | ',' :: rest => itemsOnto fuel (item :: items) rest
      | ']' :: rest => some (.arr (item :: items).reverse, rest)
      | _ => none

/-- Reads the members of an object that are left. -/
def membersOnto (fuel : Nat) (members : List (String × Json Float)) (cs : List Char) :
    Option (Json Float × List Char) :=
  match fuel, skipSpace cs with
  | fuel + 1, '"' :: cs => match stringOnto "" (fuel + 1) cs with
    | none => none
    | some (name, rest) => match skipSpace rest with
      | ':' :: rest => match value? fuel rest with
        | none => none
        | some (value, rest) =>
          let members := put members name value
          match skipSpace rest with
          | ',' :: rest => membersOnto fuel members rest
          | '\x7d' :: rest => some (.obj members, rest)
          | _ => none
      | _ => none
  | _, _ => none

end

/-- The value that a text writes. -/
def read? (text : String) : Option (Json Float) :=
  let cs := text.toList
  match value? (2 * cs.length + 1) cs with
  | some (value, rest) => if (skipSpace rest).isEmpty then some value else none
  | none => none

end Json

end CallAtlas
