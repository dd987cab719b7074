import CallAtlas.Automaton.Merge

/-!
# Ways of looking for tokens

States that expect similar tokens look for tokens in the same way: each takes the
first set of tokens that it fits into without a conflict, and the set grows by
what the state expects. Which text counts as an error depends on these sets, for
a token that is found but not expected is an error of another kind than text in
which none is found.
-/

namespace CallAtlas

namespace LexMode

/-- Whether the tokens of each state meet: by token the tokens that some state
expects together with it. -/
def together (rows : Array StateRow) (count : Nat) : Array TokenSet :=
  rows.foldl (fun acc row =>
    row.expected.toList.foldl (fun acc t =>
      if t < count then acc.modify t (·.union row.expected) else acc) acc)
    (Array.replicate count .empty)

/-- The tokens that get into no other token's way, but for tokens that are
expected together. -/
def free (conflicts : ConflictTable) (together : Array TokenSet) (tokens : List Nat) : List Nat :=
  tokens.filter fun i => !tokens.any fun j =>
    j ≠ i && !(together.getD i .empty).contains j &&
      (let c := conflicts.get i j
       (c.overruns || c.inBlanks) && !(conflicts.get j i).inBlanks)

/-- What is looked for after an error: every token but those that would take the
place of a free one. Keywords and names are always looked for. -/
def afterError (l : Language) (lexer : Lexer) (conflicts : ConflictTable)
    (together : Array TokenSet) : TokenSet :=
  let tokens := (List.range l.firstExternal).drop 1
  let free := free conflicts together tokens
  .ofList <| Language.endOfText :: tokens.filter fun i =>
    free.contains i || lexer.keywordSet.contains i || i = Language.word ||
      !free.any fun t =>
        !(together.getD i .empty).contains t && (conflicts.get i t).replaces

/-- By token the tokens with which it may not be looked for. -/
def obstacles (conflicts : ConflictTable) (together : Array TokenSet) (count : Nat) :
    Array TokenSet :=
  let tokens := (List.range count).drop 1
  Array.ofFn fun (i : Fin count) => .ofList <| tokens.filter fun e =>
    let c := conflicts.get i.val e
    c.replaces || c.preempts ||
      (!(together.getD i.val .empty).contains e &&
        (c.overlaps || (conflicts.get e i.val).overlaps))

/-- Whether two sets of tokens can be looked for together. -/
def fit (obstacles : Array TokenSet) (s t : TokenSet) : Bool :=
  (s.diff t).toList.all (fun i => ((obstacles.getD i .empty).inter t).isEmpty) &&
    (t.diff s).toList.all fun i => ((obstacles.getD i .empty).inter s).isEmpty

/-- Puts a state's tokens into the first set that they fit into, else into a new
one. Answers the number of the set. -/
def place (obstacles : Array TokenSet) (sets : Array TokenSet) (tokens : TokenSet) :
    Nat × Array TokenSet :=
  match sets.findIdx? fun s => fit obstacles s (tokens.diff (.single Language.endOfText)) with
  | some k => (k, sets.modify k (·.union tokens))
  | none => (sets.size, sets.push tokens)

/-- The tokens that each state looks for. The error state comes first, then the
start, then the others, those with most symbols first. -/
def lookedFor (l : Language) (lexer : Lexer) (obstacles : Array TokenSet) (error : TokenSet)
    (rows : Array StateRow) : Array TokenSet :=
  let inLexer := TokenSet.ofList (List.range l.firstExternal)
  let asFound := fun (tokens : TokenSet) =>
    let keywords := tokens.inter lexer.keywordSet
    let rest := (tokens.inter inLexer).diff keywords
    if keywords.isEmpty then rest else rest.insert Language.word
  let width := fun s =>
    let row := rows.getD s default
    row.actions.size + row.gotos.size
  let others := ((List.range rows.size).drop 2).mergeSort fun s t => width t ≤ width s
  let (sets, modes) := ((0, error) :: (Automaton.startState :: others).map fun s =>
      (s, (rows.getD s default).expected)).foldl (fun (sets, modes) (s, tokens) =>
    let (k, sets) := place obstacles sets (asFound tokens)
    (sets, modes.set! s k)) ((#[] : Array TokenSet), Array.replicate rows.size 0)
  modes.map fun k => sets.getD k .empty

end LexMode

end CallAtlas
