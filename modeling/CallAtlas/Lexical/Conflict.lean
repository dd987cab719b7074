import CallAtlas.Lexical.Lexer

/-!
# Conflicts between tokens

When two parser states are joined, or share one way of looking for tokens, the
lexer looks in both for what either expects. That is harmless only if no token
can take the place of another. This file finds out, for every two tokens, how
their matches can get into each other's way: both recognizers are run side by
side over every text, character class by character class.
-/

namespace CallAtlas

/-- How one token gets into the way of another. -/
structure TokenConflict where
  /-- It can go on where the other has matched. -/
  continues : Bool
  /-- It can go on there with a character that could begin what follows the other. -/
  overruns : Bool
  /-- It gives up its longer match because the other has matched. -/
  preempts : Bool
  /-- It matches while the other is still in the blanks before it. -/
  inBlanks : Bool
  /-- It is preferred where both match the same text. -/
  sameText : Bool
  deriving Inhabited, Repr

namespace TokenConflict

/-- The two do not meet. -/
def none : TokenConflict := ⟨false, false, false, false, false⟩

/-- Whether the token can be found in the place of the other. -/
def replaces (c : TokenConflict) : Bool := c.overruns || c.inBlanks || c.sameText

/-- Whether the two share some beginning at all. -/
def overlaps (c : TokenConflict) : Bool := c.inBlanks || c.preempts || c.sameText || c.continues

end TokenConflict

/-- The recognizers over one alphabet of character classes. -/
structure ClassTables where
  /-- For every class one of its characters. -/
  alphabet : Array Nat
  /-- Whether the class is one of blanks. -/
  blank : Array Bool
  /-- By symbol, by state, by class: the next state or none. -/
  next : Array (Array (Array (Option Nat)))
  accepts : Array (Array Bool)
  precedence : Array Int
  specificity : Array Nat
  immediate : Array Bool
  /-- By symbol: the classes that can follow the token. -/
  follow : Array TokenSet
  deriving Inhabited

/-- Where one of two recognizers is. -/
inductive Progress where
  | lost
  /-- In the blanks before the token. -/
  | before
  | inside (state : Nat)
  deriving DecidableEq, Hashable, Inhabited

namespace Progress

/-- Whether a match can still come. -/
def isAlive : Progress → Bool
  | .lost => false
  | _ => true

end Progress

/-- The next place of one recognizer, and whether it only passed a blank. -/
structure Move where
  target : Progress
  blank : Bool
  deriving Inhabited

namespace ClassTables

/-- Where a recognizer begins. -/
def start (t : ClassTables) (token : Nat) : Progress :=
  if t.immediate.getD token false then .inside 0 else .before

/-- The next state inside a token. -/
def step (t : ClassTables) (token state c : Nat) : Progress :=
  match ((t.next.getD token #[]).getD state #[]).getD c none with
  | some k => .inside k
  | none => .lost

/-- The move of a recognizer on a class. -/
def move (t : ClassTables) (token : Nat) (p : Progress) (c : Nat) : Move :=
  match p with
  | .lost => ⟨.lost, false⟩
  | .before => if t.blank.getD c false then ⟨.before, true⟩ else ⟨t.step token 0 c, false⟩
  | .inside k => ⟨t.step token k c, false⟩

/-- Whether a recognizer has matched. -/
def matched (t : ClassTables) (token : Nat) : Progress → Bool
  | .inside k => (t.accepts.getD token #[]).getD k false
  | _ => false

/-- Whether the first of two tokens is preferred where both match. -/
def prefers (t : ClassTables) (a b : Nat) : Bool :=
  let p := t.precedence.getD a 0
  let q := t.precedence.getD b 0
  let m := t.specificity.getD a 0
  let n := t.specificity.getD b 0
  if p ≠ q then q < p else if m ≠ n then n < m else a < b

/-- The precedence of a move: that of the token, none in blanks. -/
def movePrecedence (t : ClassTables) (token : Nat) (m : Move) : Int :=
  if m.blank then 0 else t.precedence.getD token 0

/-- What is found in one place of a run: for either token, how it gets into the
way of the other. -/
def observe (t : ClassTables) (a b : Nat) (p q : Progress) (found : TokenConflict × TokenConflict) :
    TokenConflict × TokenConflict :=
  let inBlanks := p == .before || q == .before
  let doneA := t.matched a p
  let doneB := t.matched b q
  let (ca, cb) := found
  let ca := if doneA && inBlanks then { ca with inBlanks := true } else ca
  let cb := if doneB && inBlanks then { cb with inBlanks := true } else cb
  let both := doneA && doneB
  let firstWins := t.prefers a b
  let ca := if both && firstWins then { ca with sameText := true } else ca
  let cb := if both && !firstWins then { cb with sameText := true } else cb
  -- the token that counts as matched here, and the one that may go on
  let winner := if both then (if firstWins then some a else some b)
    else if doneA then some a else if doneB then some b else none
  match winner with
  | none => (ca, cb)
  | some w =>
    (List.range t.alphabet.size).foldl (fun (ca, cb) c =>
      let ma := t.move a p c
      let mb := t.move b q c
      let (own, other, rival) := if w = a then (ma, mb, b) else (mb, ma, a)
      if own.target.isAlive || !other.target.isAlive then (ca, cb)
      else
        let level := t.movePrecedence rival other
        let bar := t.precedence.getD w 0
        let goesOn := bar < level || (level = bar && !other.blank && !inBlanks)
        let note : TokenConflict → TokenConflict := fun x =>
          if goesOn then
            { x with
              continues := true
              overruns := x.overruns || (t.follow.getD w .empty).contains c }
          else x
        let giveWay : TokenConflict → TokenConflict := fun x =>
          if goesOn then x else { x with preempts := true }
        if rival = a then (note ca, giveWay cb) else (giveWay ca, note cb)) (ca, cb)

/-- Runs two recognizers side by side from the places in `work`. -/
def run (t : ClassTables) (a b : Nat) : Nat → List (Progress × Progress) →
    Std.HashSet (Progress × Progress) → TokenConflict × TokenConflict →
    TokenConflict × TokenConflict
  | 0, _, _, found => found
  | _, [], _, found => found
  | fuel + 1, (p, q) :: work, seen, found =>
    let found := t.observe a b p q found
    let (work, seen) := (List.range t.alphabet.size).foldl (fun (work, seen) c =>
      let next := ((t.move a p c).target, (t.move b q c).target)
      if !next.1.isAlive || !next.2.isAlive || seen.contains next then (work, seen)
      else (next :: work, seen.insert next)) (work, seen)
    run t a b fuel work seen found

/-- More places than two recognizers can be in together. -/
def runLimit : Nat := 100000

/-- How two tokens get into each other's way. -/
def between (t : ClassTables) (a b : Nat) : TokenConflict × TokenConflict :=
  let start := (t.start a, t.start b)
  t.run a b runLimit [start] { start } (.none, .none)

end ClassTables

/-! ## The tables of a language -/

/-- Which tokens can end a rule: one round over the productions. -/
def lastRound (l : Language) (last : Array TokenSet) : Array TokenSet :=
  l.productions.foldl (fun acc p =>
    match p.steps.back? with
    | none => acc
    | some s =>
      let r := p.head - l.firstRule
      let ends := if l.isTerminal s.symbol then .single s.symbol
        else acc.getD (s.symbol - l.firstRule) .empty
      acc.set! r ((acc.getD r .empty).union ends)) last

/-- The tokens that can end each rule. -/
def lastTokens (l : Language) : Nat → Array TokenSet → Array TokenSet
  | 0, acc => acc
  | rounds + 1, acc =>
    let acc' := lastRound l acc
    if acc' == acc then acc else lastTokens l rounds acc'

/-- For each token the tokens that can come right after it. -/
def followingTokens (l : Language) (first : Nat → TokenSet) : Array TokenSet :=
  let count := l.symbols.size - l.firstRule
  let last := lastTokens l count (Array.replicate count .empty)
  let lastOf := fun symbol => if l.isTerminal symbol then TokenSet.single symbol
    else last.getD (symbol - l.firstRule) .empty
  let known := TokenSet.ofList ((List.range l.firstExternal).drop 1)
  let inside := l.productions.foldl (fun acc p =>
    (p.steps.toList.zip (p.steps.toList.drop 1)).foldl (fun acc (s, next) =>
      let firsts := (first next.symbol).inter known
      ((lastOf s.symbol).inter known).toList.foldl (fun acc token =>
        acc.modify token (·.union firsts)) acc) acc)
    (Array.replicate l.firstExternal TokenSet.empty)
  l.extras.foldl (fun acc e =>
    if e < l.firstExternal then (acc.map (·.insert e)).set! e known else acc) inside

/-- The classes that every recognizer tells apart. -/
def classesOf (lexer : Lexer) : List CharSet :=
  let sets := lexer.recognizers.toList.flatMap fun r =>
    r.states.toList.flatMap fun s => s.moves.map (·.1)
  (CharSet.separator :: Expansion.distinct sets).foldl Pattern.refine []

/-- The tables of a language. -/
def ClassTables.ofLanguage (l : Language) (lexer : Lexer) (first : Nat → TokenSet) : ClassTables :=
  let alphabet := ((classesOf lexer).filterMap CharSet.first?).toArray
  let blank := alphabet.map CharSet.separator.containsCode
  let next := lexer.recognizers.map fun r => r.states.map fun s =>
    alphabet.map fun code => (s.moves.find? (·.1.containsCode code)).map (·.2)
  let immediate := lexer.lexemes.map (·.immediate)
  let beginning : Array TokenSet := next.mapIdx fun token states =>
    let own := TokenSet.ofList ((List.range alphabet.size).filter fun c =>
      ((states.getD 0 #[]).getD c none).isSome)
    if immediate.getD token false then own
    else own.union (.ofList ((List.range alphabet.size).filter fun c => blank.getD c false))
  { alphabet, blank, next, immediate
    accepts := lexer.recognizers.map fun r => r.states.map (·.accepts)
    precedence := lexer.lexemes.map (·.precedence)
    specificity := lexer.lexemes.map (·.specificity)
    follow := (followingTokens l first).map fun tokens =>
      tokens.toList.foldl (fun acc t => acc.union (beginning.getD t .empty)) .empty }

/-- All conflicts of a language's tokens, by the first token and the second. -/
structure ConflictTable where
  entries : Array (Array TokenConflict)
  deriving Inhabited

namespace ConflictTable

/-- How the first token gets into the way of the second. -/
def get (t : ConflictTable) (a b : Nat) : TokenConflict :=
  (t.entries.getD a #[]).getD b .none

/-- All conflicts. -/
def ofTables (t : ClassTables) (count : Nat) : ConflictTable :=
  ⟨(List.range count).foldl (fun entries a =>
    (List.range a).foldl (fun entries b =>
      if a = 0 || b = 0 then entries
      else
        let (ca, cb) := t.between a b
        (entries.modify a (·.set! b ca)).modify b (·.set! a cb)) entries)
    (Array.replicate count (Array.replicate count TokenConflict.none))⟩

end ConflictTable

end CallAtlas
