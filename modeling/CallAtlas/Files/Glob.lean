/-!
# Patterns for paths

A pattern is a list of tokens: characters, `?` for any character, classes in brackets,
`*` for any text, and `**` for any number of whole names. `*` and `?` also stand for
what divides names.
-/

namespace CallAtlas

/-- Characters from `first` to `last`. -/
structure CharRange where
  first : Char
  last : Char
  deriving DecidableEq, Inhabited, Repr

/-- A part of a pattern. -/
inductive GlobToken where
  | char (c : Char)
  | anyChar
  /-- Any text. -/
  | anyText
  /-- Names and what divides them. -/
  | anyNames
  | within (ranges : List CharRange)
  | except (ranges : List CharRange)
  deriving DecidableEq, Inhabited, Repr

/-- What is wrong with a pattern. -/
inductive GlobFault where
  | manyStars
  | namesInside
  | openClass
  deriving DecidableEq, Inhabited, Repr

namespace GlobFault

/-- What is said of it. -/
def message : GlobFault → String
  | manyStars => "wildcards are either regular \x60*\x60 or recursive \x60**\x60"
  | namesInside => "recursive wildcards must form a single path component"
  | openClass => "invalid range pattern"

end GlobFault

/-- A fault in a pattern and its place, in characters. -/
structure GlobError where
  place : Nat
  fault : GlobFault
  deriving DecidableEq, Inhabited, Repr

namespace GlobError

/-- What is said of it. -/
def message (e : GlobError) : String :=
  s!"Pattern syntax error near position {e.place}: {e.fault.message}"

end GlobError

/-- A pattern for paths. -/
structure Glob where
  tokens : List GlobToken
  deriving DecidableEq, Inhabited, Repr

namespace Glob

/-- What divides the names of a path. -/
def separator : Char := '/'

/-! ## Reading -/

/-- The ranges of a class. -/
def ranges : List Char → List CharRange
  | a :: '-' :: b :: rest => ⟨a, b⟩ :: ranges rest
  | c :: rest => ⟨c, c⟩ :: ranges rest
  | [] => []

/-- The members of a class, of which there is at least one, and the rest behind the
bracket that closes it. -/
def classOf? : List Char → Option (List CharRange × List Char)
  | first :: rest =>
    match rest.dropWhile (· != ']') with
    | _ :: after => some (ranges (first :: rest.takeWhile (· != ']')), after)
    | [] => none
  | [] => none

/-- A class behind its bracket. -/
def class? : List Char → Option (GlobToken × List Char)
  | '!' :: rest => (classOf? rest).map fun (rs, rest) => (.except rs, rest)
  | rest => (classOf? rest).map fun (rs, rest) => (.within rs, rest)

/-- The rest behind two stars, if they are a whole name; `before` is the character
before them. -/
def afterNames (place : Nat) (before : Option Char) (rest : List Char) :
    Except GlobError (List Char) :=
  match before with
  | some c =>
    if c = separator then after place rest else .error ⟨place - 1, .namesInside⟩
  | none => after place rest
where
  /-- The rest behind two stars and what divides names. -/
  after (place : Nat) : List Char → Except GlobError (List Char)
    | [] => .ok []
    | c :: rest => if c = separator then .ok rest else .error ⟨place + 2, .namesInside⟩

/-- Reads the tokens that are left, of at most `fuel` characters. `place` is the place
of the next character and `before` the character before it. -/
def tokensFrom (place : Nat) (before : Option Char) :
    Nat → List Char → Except GlobError (List GlobToken)
  | 0, _ => .ok []
  | _, [] => .ok []
  | fuel + 1, c :: rest =>
    if c = '?' then (tokensFrom (place + 1) c fuel rest).map (.anyChar :: ·)
    else if c = '*' then
      match rest with
      | '*' :: '*' :: _ => .error ⟨place + 2, .manyStars⟩
      | '*' :: rest => do
        let later ← afterNames place before rest
        let taken := 2 + (rest.length - later.length)
        let last := if taken = 2 then '*' else separator
        return .anyNames :: (← tokensFrom (place + taken) last fuel later)
      | rest => (tokensFrom (place + 1) c fuel rest).map (.anyText :: ·)
    else if c = '[' then
      match class? rest with
      | some (token, later) =>
        (tokensFrom (place + 1 + (rest.length - later.length)) ']' fuel later).map (token :: ·)
      | none => .error ⟨place, .openClass⟩
    else (tokensFrom (place + 1) c fuel rest).map (.char c :: ·)

/-- Reads a pattern. -/
def ofString (text : String) : Except GlobError Glob :=
  (tokensFrom 0 none text.length text.toList).map Glob.mk

/-! ## Matching -/

/-- Whether a character is in one of some ranges. -/
def inRanges (rs : List CharRange) (c : Char) : Bool :=
  rs.any fun r => r.first ≤ c && c ≤ r.last

/-- Whether a text or a text behind one of its characters passes. -/
def anyRest (p : List Char → Bool) : List Char → Bool
  | [] => p []
  | c :: cs => p (c :: cs) || anyRest p cs

/-- Whether the end of a text passes, or the text behind one of its separators. -/
def anyName (p : List Char → Bool) : List Char → Bool
  | [] => p []
  | c :: cs => (c == separator && p cs) || anyName p cs

/-- Whether a text matches some tokens. -/
def matchesTokens : List GlobToken → List Char → Bool
  | [], cs => cs.isEmpty
  | .anyText :: ts, cs => anyRest (matchesTokens ts) cs
  | .anyNames :: ts, cs => matchesTokens ts cs || anyName (matchesTokens ts) cs
  | .char d :: ts, c :: cs => c == d && matchesTokens ts cs
  | .anyChar :: ts, _ :: cs => matchesTokens ts cs
  | .within rs :: ts, c :: cs => inRanges rs c && matchesTokens ts cs
  | .except rs :: ts, c :: cs => !inRanges rs c && matchesTokens ts cs
  | _ :: _, [] => false

/-- Whether a path matches a pattern. -/
def accepts (g : Glob) (path : String) : Bool := matchesTokens g.tokens path.toList

end Glob

end CallAtlas
