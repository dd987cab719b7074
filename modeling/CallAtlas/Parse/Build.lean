import CallAtlas.Parse.Run
import CallAtlas.Automaton.LexMode

/-!
# Making parsers

A parser that only tells whether a text has errors needs no preparation: its
states are made as texts reach them. A parser that goes on after errors needs
all states beforehand, joined and with their ways of looking for tokens, because
what it finds wrong depends on them.
-/

namespace CallAtlas

namespace Parser

/-- The parser of a language that stops at the first error. -/
def strict (l : Language) (typed : Bool) : Parser :=
  { automaton := .ofLanguage l, lexer := .ofLanguage l, typed, recovers := false, lookedFor := #[] }

/-- The parser of a language that goes on after errors. -/
def recovering (l : Language) (typed : Bool) : Parser :=
  let lexer := Lexer.ofLanguage l
  let (a, rows) := (Automaton.ofLanguage l).allRows
  let tables := ClassTables.ofLanguage l lexer (a.table.firstTokensOf l)
  let conflicts := ConflictTable.ofTables tables l.firstExternal
  let together := LexMode.together rows l.firstExternal
  let joined := a.joined rows (Automaton.barrier l lexer conflicts)
  let error := LexMode.afterError l lexer conflicts together
  let obstacles := LexMode.obstacles conflicts together l.firstExternal
  { automaton := a.ofRows joined, lexer, typed, recovers := true
    lookedFor := LexMode.lookedFor l lexer obstacles error joined }

end Parser

end CallAtlas
