import CallAtlas.Decimal.Shortest
import CallAtlas.Number.Basic

/-!
# Scalars of TOML

Numbers, times and strings. A reader takes characters off the front of a text and
gives what is left.
-/

namespace CallAtlas

namespace Toml

/-! ## Classes of characters -/

/-- Blanks inside a line. -/
def isSpace (c : Char) : Bool := c == ' ' || c == '\t'

/-- Without blanks at the front. -/
def skipSpace (cs : List Char) : List Char := cs.dropWhile isSpace

/-- A character that can stand in comments and literal strings. -/
def isText (c : Char) : Bool := c == '\t' || (0x20 ≤ c.toNat && c.toNat ≠ 0x7F)

/-- The rest after the end of a line. -/
def newline? : List Char → Option (List Char)
  | '\n' :: rest => some rest
  | '\r' :: '\n' :: rest => some rest
  | _ => none

/-- Without a comment at the front. -/
def skipComment : List Char → List Char
  | '#' :: rest => rest.dropWhile isText
  | cs => cs

/-! ## Digits -/

/-- A digit of base two, eight, ten or sixteen. -/
def isDigitOf (base : Nat) (c : Char) : Bool :=
  if base = 16 then c.isDigit || ('a' ≤ c && c ≤ 'f') || ('A' ≤ c && c ≤ 'F')
  else c.isDigit && c.toNat - '0'.toNat < base

/-- The value of a digit. -/
def digitValue (c : Char) : Nat :=
  if c.isDigit then c.toNat - '0'.toNat
  else if 'a' ≤ c && c ≤ 'f' then c.toNat - 'a'.toNat + 10
  else c.toNat - 'A'.toNat + 10

/-- Digits, with single underscores between them, behind `acc`, which is reversed. -/
def digitsOnto (base : Nat) (acc : List Char) : List Char → List Char × List Char
  | '_' :: c :: rest =>
    if isDigitOf base c then digitsOnto base (c :: acc) rest else (acc.reverse, '_' :: c :: rest)
  | c :: rest =>
    if isDigitOf base c then digitsOnto base (c :: acc) rest else (acc.reverse, c :: rest)
  | [] => (acc.reverse, [])

/-- At least one digit. -/
def digits? (base : Nat) : List Char → Option (List Char × List Char)
  | c :: rest => if isDigitOf base c then some (digitsOnto base [c] rest) else none
  | [] => none

/-- The number that digits write. -/
def valueOf (base : Nat) (digits : List Char) : Nat :=
  digits.foldl (fun n c => n * base + digitValue c) 0

/-- A sign, if there is one: whether it is a minus, and the rest. -/
def sign : List Char → Bool × List Char
  | '-' :: rest => (true, rest)
  | '+' :: rest => (false, rest)
  | cs => (false, cs)

/-- The digits of a decimal number without a needless zero at the front. -/
def decimalDigits? : List Char → Option (List Char × List Char)
  | '0' :: rest => some (['0'], rest)
  | cs => digits? 10 cs

/-! ## Numbers -/

/-- A whole number of 64 bits. -/
def inRange? (n : Int) : Option Int :=
  let bound : Int := Number.wordBound 63
  if -bound ≤ n ∧ n < bound then some n else none

/-- A whole number behind a mark for its base. -/
def based? (base : Nat) (cs : List Char) : Option (Int × List Char) := do
  let (digits, rest) ← digits? base cs
  return (← inRange? (valueOf base digits), rest)

/-- A whole number. -/
def integer? : List Char → Option (Int × List Char)
  | '0' :: 'x' :: rest => based? 16 rest
  | '0' :: 'o' :: rest => based? 8 rest
  | '0' :: 'b' :: rest => based? 2 rest
  | cs => do
    let (negative, cs) := sign cs
    let (digits, rest) ← decimalDigits? cs
    let n : Int := valueOf 10 digits
    return (← inRange? (if negative then -n else n), rest)

/-- The digits behind a point, if there is one. -/
def fraction? : List Char → Option (List Char × List Char)
  | '.' :: rest => digits? 10 rest
  | _ => none

/-- An exponent, if there is one. -/
def exponent? : List Char → Option (Int × List Char)
  | c :: rest =>
    if c = 'e' || c = 'E' then do
      let (negative, rest) := sign rest
      let (digits, rest) ← digits? 10 rest
      let n : Int := valueOf 10 digits
      return (if negative then -n else n, rest)
    else none
  | [] => none

/-- A float of digits, a fraction and an exponent. One that is too large is refused. -/
def floatOf? (negative : Bool) (whole fraction : List Char) (exponent : Int)
    (rest : List Char) : Option (Float × List Char) :=
  let x := Decimal.toFloat ⟨negative, valueOf 10 (whole ++ fraction), exponent - fraction.length⟩
  if x.isInf && 0.0 < x then none else some (x, rest)

/-- A number with a fraction or an exponent. -/
def decimal? (cs : List Char) : Option (Float × List Char) := do
  let (negative, cs) := sign cs
  let (whole, rest) ← decimalDigits? cs
  match fraction? rest with
  | some (fraction, rest) => match exponent? rest with
    | some (exponent, rest) => floatOf? negative whole fraction exponent rest
    | none => floatOf? negative whole fraction 0 rest
  | none => match exponent? rest with
    | some (exponent, rest) => floatOf? negative whole [] exponent rest
    | none => none

/-- A float that is no decimal. -/
def special? (cs : List Char) : Option (Float × List Char) :=
  let (negative, cs) := sign cs
  let signed := fun (x : Float) => if negative then -x else x
  match cs with
  | 'i' :: 'n' :: 'f' :: rest => some (signed (1.0 / 0.0), rest)
  | 'n' :: 'a' :: 'n' :: rest => some (signed (0.0 / 0.0), rest)
  | _ => none

/-- A float. -/
def float? (cs : List Char) : Option (Float × List Char) := (decimal? cs).or (special? cs)

/-! ## Times -/

/-- A number of a fixed count of digits within bounds. -/
def fixed? (count low high : Nat) (cs : List Char) : Option (Nat × List Char) :=
  let digits := cs.take count
  let n := valueOf 10 digits
  if digits.length = count && digits.all Char.isDigit && low ≤ n && n ≤ high then
    some (n, cs.drop count)
  else none

/-- One character. -/
def char? (c : Char) : List Char → Option (List Char)
  | d :: rest => if c = d then some rest else none
  | [] => none

/-- Whether a year has a day more. -/
def isLeap (year : Nat) : Bool := year % 4 == 0 && (year % 100 != 0 || year % 400 == 0)

/-- The number of days of a month. -/
def daysOf (year month : Nat) : Nat :=
  if month = 2 then if isLeap year then 29 else 28
  else if [4, 6, 9, 11].contains month then 30
  else 31

/-- The rest after a date. -/
def date? (cs : List Char) : Option (List Char) := do
  let (year, cs) ← fixed? 4 0 9999 cs
  let (month, cs) ← fixed? 2 1 12 (← char? '-' cs)
  let (_, cs) ← fixed? 2 1 (daysOf year month) (← char? '-' cs)
  return cs

/-- The rest after parts of a second, if there are any. -/
def secondParts (cs : List Char) : List Char :=
  match cs with
  | '.' :: c :: rest => if c.isDigit then rest.dropWhile Char.isDigit else cs
  | _ => cs

/-- The rest after a time of the day. -/
def time? (cs : List Char) : Option (List Char) := do
  let (_, cs) ← fixed? 2 0 23 cs
  let (_, cs) ← fixed? 2 0 59 (← char? ':' cs)
  let (_, cs) ← fixed? 2 0 60 (← char? ':' cs)
  return secondParts cs

/-- The rest after the distance of a time from that of the zero meridian, if it is
given. -/
def offset (cs : List Char) : List Char :=
  match cs with
  | c :: rest =>
    if c = 'Z' || c = 'z' then rest
    else if c = '+' || c = '-' then
      let distance := do
        let (_, rest) ← fixed? 2 0 23 rest
        let (_, rest) ← fixed? 2 0 59 (← char? ':' rest)
        return rest
      distance.getD cs
    else cs
  | [] => cs

/-- The rest after a date with or without a time, or a time. -/
def moment? (cs : List Char) : Option (List Char) :=
  match date? cs with
  | some rest =>
    let withTime := match rest with
      | c :: later => if c = 'T' || c = 't' || c = ' ' then time? later else none
      | [] => none
    some ((withTime.map offset).getD rest)
  | none => time? cs

/-! ## Strings -/

/-- The character with a code, if there is one. -/
def charOf? (n : Nat) : Option Char := if n.isValidChar then some (Char.ofNat n) else none

/-- The character of an escape with digits. -/
def coded? (count : Nat) (cs : List Char) : Option (Char × List Char) := do
  let digits := cs.take count
  if digits.length = count && digits.all (isDigitOf 16) then
    return (← charOf? (valueOf 16 digits), cs.drop count)
  else none

/-- The character of an escape, behind the backslash. -/
def escape? : List Char → Option (Char × List Char)
  | 'b' :: rest => some ('\x08', rest)
  | 't' :: rest => some ('\t', rest)
  | 'n' :: rest => some ('\n', rest)
  | 'f' :: rest => some ('\x0c', rest)
  | 'r' :: rest => some ('\r', rest)
  | '"' :: rest => some ('"', rest)
  | '\\' :: rest => some ('\\', rest)
  | 'u' :: rest => coded? 4 rest
  | 'U' :: rest => coded? 8 rest
  | _ => none

/-- A string in one line behind its opening mark, of at most `fuel` characters. -/
def basicOnto (out : String) : Nat → List Char → Option (String × List Char)
  | 0, _ => none
  | _, [] => none
  | fuel + 1, c :: rest =>
    if c = '"' then some (out, rest)
    else if c = '\\' then
      match escape? rest with
      | some (d, rest) => basicOnto (out.push d) fuel rest
      | none => none
    else if isText c then basicOnto (out.push c) fuel rest
    else none

/-- A literal string in one line behind its opening mark. -/
def literalOnto (out : String) : List Char → Option (String × List Char)
  | [] => none
  | c :: rest =>
    if c = '\'' then some (out, rest)
    else if isText c then literalOnto (out.push c) rest
    else none

/-- A text with some equal marks behind it. -/
def pushMarks (out : String) (mark : Char) : Nat → String
  | 0 => out
  | count + 1 => pushMarks (out.push mark) mark count

/-- What some marks inside a string of several lines mean: fewer than three stand for
themselves; three end the string, and up to two more before them stand for
themselves. -/
def marks (out : String) (mark : Char) (count : Nat) : Option (String × Bool) :=
  if count < 3 then some (pushMarks out mark count, false)
  else if count ≤ 5 then some (pushMarks out mark (count - 3), true)
  else none

/-- The rest after an escaped end of a line and all white space behind it. -/
def continued? (cs : List Char) : Option (List Char) :=
  (newline? (skipSpace cs)).map skipBlank
where
  /-- Without blanks and ends of lines at the front. -/
  skipBlank (cs : List Char) : List Char :=
    match cs with
    | '\r' :: '\n' :: rest => skipBlank rest
    | c :: rest => if isSpace c || c == '\n' then skipBlank rest else c :: rest
    | [] => []

/-- A string of several lines behind its opening marks, of at most `fuel` characters.
Escapes count only between double marks. -/
def linesOnto (mark : Char) (out : String) : Nat → List Char → Option (String × List Char)
  | 0, _ => none
  | _, [] => none
  | fuel + 1, c :: rest =>
    if c = mark then
      let more := rest.takeWhile (· == mark)
      let rest := rest.dropWhile (· == mark)
      match marks out mark (more.length + 1) with
      | some (out, true) => some (out, rest)
      | some (out, false) => linesOnto mark out fuel rest
      | none => none
    else if c = '\\' && mark = '"' then
      match continued? rest with
      | some rest => linesOnto mark out fuel rest
      | none => match escape? rest with
        | some (d, rest) => linesOnto mark (out.push d) fuel rest
        | none => none
    else if c = '\n' then linesOnto mark (out.push '\n') fuel rest
    else if c = '\r' then
      match rest with
      | '\n' :: rest => linesOnto mark (out.push '\n') fuel rest
      | _ => none
    else if isText c then linesOnto mark (out.push c) fuel rest
    else none

/-- A string of several lines behind its opening marks. An end of a line right behind
them does not count. -/
def lines? (mark : Char) (cs : List Char) : Option (String × List Char) :=
  linesOnto mark "" (cs.length + 1) ((newline? cs).getD cs)

/-- A string in one line. -/
def quoted? : List Char → Option (String × List Char)
  | '"' :: rest => basicOnto "" (rest.length + 1) rest
  | '\'' :: rest => literalOnto "" rest
  | _ => none

/-- A string. -/
def string? : List Char → Option (String × List Char)
  | '"' :: '"' :: '"' :: rest => lines? '"' rest
  | '\'' :: '\'' :: '\'' :: rest => lines? '\'' rest
  | cs => quoted? cs

end Toml

end CallAtlas
