import CallAtlas.Text.Invisible

/-!
# Quoted texts

Texts between quotation marks, with escapes for marks and for what does not show.
-/

namespace CallAtlas

namespace Quoted

/-- The digits of a number to base sixteen. -/
def hex (n : Nat) : String := String.ofList (Nat.toDigits 16 n)

/-- A character as it is written between quotation marks. -/
def escape (c : Char) : String :=
  if c = '\x00' then "\\0"
  else if c = '\t' then "\\t"
  else if c = '\n' then "\\n"
  else if c = '\r' then "\\r"
  else if c = '"' then "\\\""
  else if c = '\\' then "\\\\"
  else if Invisible.isInvisible c then "\\u\x7b" ++ hex c.toNat ++ "\x7d"
  else c.toString

/-- A text between quotation marks. -/
def quote (text : String) : String := "\"" ++ String.join (text.toList.map escape) ++ "\""

/-- Texts between quotation marks in brackets. -/
def quoteAll (texts : List String) : String := "[" ++ ", ".intercalate (texts.map quote) ++ "]"

end Quoted

end CallAtlas
