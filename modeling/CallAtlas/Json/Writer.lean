import CallAtlas.Json.Basic
import CallAtlas.Decimal.Shortest

/-!
# Writing JSON

Two ways to write a value: in one line, and with one item per line, indented by two
blanks per level.

Numbers with a fraction have the fewest digits that read back. From `1e-5` up to
`1e16` they are written with a point and at least one digit on either side of it,
and with an exponent elsewhere.
-/

namespace CallAtlas

namespace Json

/-! ## Numbers -/

/-- Whether a decimal with `count` digits is written without an exponent. -/
def isPositional (count : Nat) (exponent : Int) : Bool :=
  -5 ≤ exponent + count - 1 && exponent + count ≤ 16

/-- `count` zeros. -/
def zeros (count : Nat) : String := String.ofList (List.replicate count '0')

/-- Digits with a point behind the first `whole` ones. -/
def pointed (digits : List Char) (whole : Nat) : String :=
  String.ofList (digits.take whole) ++ "." ++ String.ofList (digits.drop whole)

/-- A decimal without its sign. -/
def decimalText (digits : Nat) (exponent : Int) : String :=
  let text := (toString digits).toList
  let count := text.length
  let whole := exponent + count
  if digits = 0 then "0.0"
  else if isPositional count exponent then
    if 0 ≤ exponent then String.ofList text ++ zeros exponent.toNat ++ ".0"
    else if 0 < whole then pointed text whole.toNat
    else "0." ++ zeros (-whole).toNat ++ String.ofList text
  else
    let head := if count = 1 then String.ofList text else pointed text 1
    let leading := whole - 1
    if 0 ≤ leading then head ++ "e+" ++ toString leading else head ++ "e" ++ toString leading

/-- The text of a float; there is none for those that are not finite. -/
def floatText? (x : Float) : Option String :=
  if x.isFinite then
    let d := Decimal.ofFloat x
    some ((if d.negative then "-" else "") ++ decimalText d.digits d.exponent)
  else none

/-! ## Strings -/

/-- A digit of a number below sixteen. -/
def hexDigit (n : Nat) : Char := ("0123456789abcdef".toList)[n]?.getD '0'

/-- A character as it is written in a string. -/
def escaped (c : Char) : List Char :=
  if c = '"' then ['\\', '"']
  else if c = '\\' then ['\\', '\\']
  else if c = '\n' then ['\\', 'n']
  else if c = '\r' then ['\\', 'r']
  else if c = '\t' then ['\\', 't']
  else if c = '\x08' then ['\\', 'b']
  else if c = '\x0c' then ['\\', 'f']
  else if c.toNat < 0x20 then
    ['\\', 'u', '0', '0', hexDigit (c.toNat / 16), hexDigit (c.toNat % 16)]
  else [c]

/-- A string behind some text. -/
def pushQuoted (out : String) (s : String) : String :=
  (s.foldl (fun out c => (escaped c).foldl String.push out) (out.push '"')).push '"'

/-! ## Values -/

/-- A value that is neither a list nor an object behind some text. -/
def pushScalar (out : String) : Json Float → String
  | null => out ++ "null"
  | bool b => out ++ if b then "true" else "false"
  | int n => out ++ toString n
  | real x => out ++ (floatText? x).getD "null"
  | str s => pushQuoted out s
  | arr _ | obj _ => out

mutual

/-- A value in one line behind some text. -/
def pushCompact (out : String) : Json Float → String
  | arr items => (pushItems (out.push '[') true items).push ']'
  | obj members => (pushMembers (out.push '\x7b') true members).push '\x7d'
  | value => pushScalar out value

/-- Items of a list, with a comma before all but the first. -/
def pushItems (out : String) (first : Bool) : List (Json Float) → String
  | [] => out
  | item :: rest =>
    pushItems (pushCompact (if first then out else out.push ',') item) false rest

/-- Members of an object, with a comma before all but the first. -/
def pushMembers (out : String) (first : Bool) : List (String × Json Float) → String
  | [] => out
  | (name, value) :: rest =>
    let out := (pushQuoted (if first then out else out.push ',') name).push ':'
    pushMembers (pushCompact out value) false rest

end

/-- A value in one line. -/
def compact (value : Json Float) : String := pushCompact "" value

/-- A new line at a level. -/
def pushLine (out : String) (level : Nat) : String :=
  (List.replicate level "  ").foldl (· ++ ·) (out.push '\n')

mutual

/-- A value at a level, one item per line, behind some text. -/
def pushPretty (level : Nat) (out : String) : Json Float → String
  | arr [] => out ++ "[]"
  | obj [] => out ++ "\x7b\x7d"
  | arr (item :: rest) =>
    let out := pushPretty (level + 1) (pushLine (out.push '[') (level + 1)) item
    (pushLine (pushPrettyItems (level + 1) out rest) level).push ']'
  | obj ((name, value) :: rest) =>
    let out := pushQuoted (pushLine (out.push '\x7b') (level + 1)) name ++ ": "
    let out := pushPretty (level + 1) out value
    (pushLine (pushPrettyMembers (level + 1) out rest) level).push '\x7d'
  | value => pushScalar out value

/-- The items after the first. -/
def pushPrettyItems (level : Nat) (out : String) : List (Json Float) → String
  | [] => out
  | item :: rest =>
    pushPrettyItems level (pushPretty level (pushLine (out.push ',') level) item) rest

/-- The members after the first. -/
def pushPrettyMembers (level : Nat) (out : String) : List (String × Json Float) → String
  | [] => out
  | (name, value) :: rest =>
    let out := pushQuoted (pushLine (out.push ',') level) name ++ ": "
    pushPrettyMembers level (pushPretty level out value) rest

end

/-- A value with one item per line. -/
def pretty (value : Json Float) : String := pushPretty 0 "" value

end Json

end CallAtlas
