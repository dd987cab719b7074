import CallAtlas.Parse.Recover

/-!
# Parsing a text

All readings are moved on token by token, the one that is furthest behind first.
After each round the readings are weighed against one another; the best goes on
even if it cannot use its token, the others then have to do without. A text is
parsed when a finished tree costs less than every reading that is left.
-/

namespace CallAtlas

namespace Parse

/-! ## Moving one reading on -/

/-- Does the actions of a token in order. Answers whether the token was used up,
and the last reading that came of a reduction. -/
def perform (v : Nat) (token : Subtree) : List Action → Option Nat → Parse →
    Bool × Option Nat × Parse
  | [], last, p => (false, last, p)
  | .shift _ true :: rest, last, p => perform v token rest last p
  | .shift target false :: _, last, p => (true, last, p.shift v target token false)
  | .shiftExtra :: _, last, p => (true, last, p.shift v (p.stack.state v) token true)
  | .accept :: _, last, p => (true, last, p.accept v token)
  | .reduce r :: rest, last, p =>
    let (w, p) := p.reduce v r
    perform v token rest (w.or last) p

/-- Lets a reading wait with a token it cannot use. -/
def pause (p : Parse) (v : Nat) (token : Subtree) : Parse :=
  p.mapStack fun s => s.mapHead v fun h =>
    { h with status := .paused token, countAtError := (s.node h.node).count }

/-- Reduces until the token can be read, or the reading cannot go on. -/
def consume (v : Nat) : Nat → Subtree → List Action → Parse → Parse
  | 0, token, _, p => p.pause v token
  | fuel + 1, token, actions, p =>
    let (used, last, p) := perform v token actions none p
    if used then p
    else match last with
      | some w =>
        let p := p.mapStack (·.renumber w v)
        let state := p.stack.state v
        if state = Automaton.errorState then p.recover v token
        else
          let (actions, p) := p.actions state token.info.firstLeaf
          consume v fuel token actions p
      | none =>
        let state := p.stack.state v
        let i := token.info
        let (asName, p) :=
          if i.fromWord && i.symbol ≠ Language.word then p.actions state Language.word else ([], p)
        if !asName.isEmpty then
          let token := token.mapInfo fun i =>
            { i with symbol := Language.word, firstLeaf := Language.word
                     visible := p.parser.isVisible Language.word }
          consume v fuel token asName p
        else if state = Automaton.errorState then p.recover v token
        else p.pause v token

/-- Moves one reading on by one token. -/
def advance (p : Parse) (v : Nat) : Parse :=
  let state := p.stack.state v
  let (token, p) := p.nextToken v state
  if state = Automaton.errorState then p.recover v token
  else
    let (actions, p) := p.actions state token.info.symbol
    consume v p.effort token actions p

/-! ## Weighing the readings -/

/-- Weighs reading `i` against those before it, from `j` on. Answers the number
of the reading to go on with. -/
def weighAgainst (status : ReadingStatus) : Nat → Nat → Nat → Parse → Nat × Parse
  | 0, i, _, p => (i + 1, p)
  | fuel + 1, i, j, p =>
    if i ≤ j then (i + 1, p)
    else
      let (other, p) := p.status j
      let preference := compareReadings other status
      if preference = .takeFirst then (i, p.mapStack (·.remove i))
      else if preference = .takeSecond then
        weighAgainst status fuel (i - 1) j (p.mapStack (·.remove j))
      else if p.stack.canMerge j i then (i, p.mapStack (·.merge j i))
      else if preference = .preferSecond then
        weighAgainst status fuel i (j + 1) (p.mapStack (·.swap i j))
      else weighAgainst status fuel i (j + 1) p

/-- Weighs all readings from `i` on. Answers the least cost of a reading that is
not in an error. -/
def weighAll : Nat → Nat → Option Nat → Parse → Option Nat × Parse
  | 0, _, least, p => (least, p)
  | fuel + 1, i, least, p =>
    if p.stack.heads.size ≤ i then (least, p)
    else if (p.stack.head i).status.isHalted then weighAll fuel i least (p.mapStack (·.remove i))
    else
      let (status, p) := p.status i
      let least :=
        if status.inError then least
        else some (match least with
          | none => status.cost
          | some c => min c status.cost)
      let (i, p) := weighAgainst status (p.stack.heads.size + 1) i 0 p
      weighAll fuel i least p

/-- Where a text stands after a round. -/
inductive Standing where
  /-- The least cost of a reading that is followed, if one is in no error. -/
  | going (least : Option Nat)
  /-- An error, and the parser does not go on after errors. -/
  | stopped

/-- Lets the first reading that waits go on if none before it is followed, and
drops the others that wait. -/
def resume : Nat → Nat → Nat → Bool → Option Nat → Parse → Standing × Parse
  | 0, _, _, _, least, p => (.going least, p)
  | fuel + 1, i, count, followed, least, p =>
    if count ≤ i then (.going least, p)
    else match (p.stack.head i).status with
      | .paused token =>
        if !followed && p.acceptCount < maxReadings then
          if !p.parser.recovers then (.stopped, p)
          else
            let least := some (p.stack.errorCost i)
            let p := p.mapStack (·.mapHead i fun h => { h with status := .active })
            resume fuel (i + 1) count true least (p.handleError i token)
        else resume fuel i (count - 1) followed least (p.mapStack (·.remove i))
      | _ => resume fuel (i + 1) count true least p

/-- Weighs the readings and keeps the best. -/
def condense (p : Parse) : Standing × Parse :=
  let (least, p) := weighAll (2 * p.stack.heads.size + 1) 0 none p
  let p := p.mapStack fun s => { s with heads := s.heads.shrink maxReadings }
  let count := p.stack.heads.size
  resume (count + 1) 0 count false least p

/-! ## The whole text -/

/-- Moves a reading on until it has passed the place that the readings before it
have reached. -/
def advanceUntil (v : Nat) : Nat → Nat → Parse → Nat × Parse
  | 0, last, p => (last, p)
  | fuel + 1, last, p =>
    if v < p.stack.heads.size && (p.stack.head v).status.isActive then
      let p := p.advance v
      let place := p.stack.position v
      if p.stack.heads.size ≤ v then (last, p)
      else if last < place || (0 < v && place = last) then (place, p)
      else advanceUntil v fuel last p
    else (last, p)

/-- Moves every reading on. -/
def advanceAll : Nat → Nat → Nat → Parse → Nat × Parse
  | 0, _, last, p => (last, p)
  | fuel + 1, v, last, p =>
    if p.stack.heads.size ≤ v then (last, p)
    else
      let (last, p) := advanceUntil v p.effort last p
      advanceAll fuel (v + 1) last p

/-- Whether a finished tree is better than every reading that is left. -/
def isDecided (p : Parse) (least : Option Nat) : Bool :=
  p.stack.heads.isEmpty || (match p.finished, least with
    | some tree, some cost => tree.cost < cost
    | some _, none => true
    | none, _ => false)

/-- Rounds of moving on and weighing until the best tree is known. The flag tells
whether the text was parsed to the end. -/
def rounds : Nat → Nat → Parse → Bool × Parse
  | 0, _, p => (false, p)
  | fuel + 1, last, p =>
    let (last, p) := advanceAll p.effort 0 last p
    let (standing, p) := p.condense
    match standing with
    | .stopped => (false, p)
    | .going least => if p.isDecided least then (true, p) else rounds fuel last p

end Parse

namespace Parser

/-- Parses a text. There is no tree if the parser does not go on after errors and
there is one. -/
def parse (p : Parser) (source : SourceText) : Option Subtree × Parser :=
  let start : Parse :=
    { parser := p, source, stack := .start Automaton.startState, finished := none
      acceptCount := 0 }
  let (done, q) := Parse.rounds start.effort 0 start
  (if done then q.finished else none, q.parser)

end Parser

end CallAtlas
