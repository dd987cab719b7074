/-!
# Lines

The lines of a text, which end at line feeds.
-/

namespace CallAtlas

namespace Lines

/-- Splits at line feeds. `line` is the line so far and `done` the lines before, both
reversed. -/
def splitOnto (line : List Char) (done : List (List Char)) : List Char → List (List Char)
  | [] => (line.reverse :: done).reverse
  | c :: cs =>
    if c = '\n' then splitOnto [] (line.reverse :: done) cs else splitOnto (c :: line) done cs

/-- The lines of a text, without their line feeds. -/
def split (text : List Char) : List (List Char) := splitOnto [] [] text

end Lines

end CallAtlas
