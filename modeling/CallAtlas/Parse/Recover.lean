import CallAtlas.Parse.Reduce

/-!
# Going on after an error

When no reading can use the next token, the parser looks for the cheapest way to
go on: it supplies a missing token, or goes back to a state it was in before the
error and makes what came after an error node, or skips the token. Each way costs
something, and a way that costs more than another reading is not taken.
-/

namespace CallAtlas

/-- What decides between two readings. -/
structure ReadingStatus where
  cost : Nat
  countSinceError : Nat
  weight : Int
  inError : Bool
  deriving Inhabited

/-- The outcome of comparing two readings: `take` gives the other up, `prefer`
keeps it as the second. -/
inductive Preference where
  | takeFirst
  | preferFirst
  | neither
  | preferSecond
  | takeSecond
  deriving DecidableEq, Inhabited

namespace Parse

/-- How far below a reading earlier states are looked for. -/
def landmarkDepth : Nat := 16

/-- A reading is given up when it costs this much more, scaled by how much the
better reading has made since its last error. -/
def maxCostDifference : Nat := 1800

/-- What a waiting reading costs on top of its errors. -/
def pausedCost : Nat := 100

/-- Compares two readings. -/
def compareReadings (a b : ReadingStatus) : Preference :=
  if !a.inError && b.inError then
    if a.cost < b.cost then .takeFirst else .preferFirst
  else if a.inError && !b.inError then
    if b.cost < a.cost then .takeSecond else .preferSecond
  else if a.cost < b.cost then
    if maxCostDifference < (b.cost - a.cost) * (1 + a.countSinceError) then .takeFirst
    else .preferFirst
  else if b.cost < a.cost then
    if maxCostDifference < (a.cost - b.cost) * (1 + b.countSinceError) then .takeSecond
    else .preferSecond
  else if b.weight < a.weight then .preferFirst
  else if a.weight < b.weight then .preferSecond
  else .neither

/-- The status of a reading. -/
def status (p : Parse) (v : Nat) : ReadingStatus × Parse :=
  let p := p.mapStack (·.settle v)
  let paused := (p.stack.head v).status.isPaused
  ({ cost := p.stack.errorCost v + (if paused then pausedCost else 0)
     countSinceError := p.stack.countSinceError v
     weight := (p.stack.top v).weight
     inError := paused || p.stack.state v = Automaton.errorState }, p)

/-- Whether a finished tree, or a reading at least as far on, is better than a
reading would be at some cost. -/
def betterExists (p : Parse) (v cost : Nat) (inError : Bool) : Bool × Parse :=
  match p.finished with
  | some tree => if tree.cost ≤ cost then (true, p) else others p
  | none => others p
where
  others (p : Parse) : Bool × Parse :=
    let p := p.mapStack (·.settle v)
    let self : ReadingStatus :=
      ⟨cost, p.stack.countSinceError v, (p.stack.top v).weight, inError⟩
    (List.range p.stack.heads.size).foldl (fun (found, p) i =>
      if found || i = v || !(p.stack.head i).status.isActive ||
          p.stack.position i < p.stack.position v then (found, p)
      else
        let (other, p) := p.status i
        match compareReadings self other with
        | .takeSecond => (true, p)
        | .preferSecond => (p.stack.canMerge i v, p)
        | _ => (false, p)) (false, p)

/-! ## Going back -/

/-- Puts popped subtrees back as an error node on the state they were popped to. -/
def pushError (p : Parse) (v state : Nat) (children trailing : List Subtree) : Parse :=
  let error := Subtree.error p.source (p.stack.position v) true children
  p.mapStack fun s =>
    let s := if children.isEmpty then s else s.push v (some error) state
    trailing.foldl (fun s t => s.push v (some t) state) s

/-- Goes back to a state at a depth. Only the first way down to the state counts. -/
def recoverTo (p : Parse) (v depth goal : Nat) : Bool × Parse :=
  let (stack, slices) := p.stack.popCount v depth
  let p := { p with stack }
  let (found, p) := slices.foldl (fun (found, p) x =>
    if found = some x.head then (found, p)
    else if p.stack.state x.head ≠ goal then
      (found, p.mapStack (·.mapHead x.head fun h => { h with status := .halted }))
    else
      let (stack, error) := p.stack.popError x.head
      let p := { p with stack }
      let trees := (error.map Subtree.children).getD [] ++ x.subtrees
      let (children, trailing) := Subtree.splitExtras trees
      (some x.head, p.pushError x.head goal children trailing)) ((none : Option Nat), p)
  (found.isSome, p)

/-- Whether a reading from before is already in a state at the place. -/
def wouldMerge (p : Parse) (readings state place : Nat) : Bool :=
  (List.range readings).any fun j => p.stack.state j == state && p.stack.position j == place

/-- Tries the earlier states in turn, the nearest first. -/
def recoverToLandmark (p : Parse) (v : Nat) (token : Subtree) (readings : Nat) :
    List Landmark → Bool × Parse
  | [] => (false, p)
  | m :: rest =>
    let place := p.stack.position v
    if m.state = Automaton.errorState || m.position = place then
      recoverToLandmark p v token readings rest
    else if p.wouldMerge readings m.state place then recoverToLandmark p v token readings rest
    else
      let depth := if 0 < p.stack.countSinceError v then m.depth + 1 else m.depth
      let cost := p.stack.errorCost v + m.depth * Subtree.skippedTreeCost +
        Subtree.skippedTextCost p.source m.position place
      let (better, p) := p.betterExists v cost false
      if better then (false, p)
      else
        let (fits, p) := p.hasActions m.state token.info.symbol
        let (went, p) := if fits then p.recoverTo v depth m.state else (false, p)
        if went then (true, p) else recoverToLandmark p v token readings rest

/-- Drops the readings from a number on that are not followed. -/
def dropInactive (p : Parse) (first : Nat) : Parse :=
  p.mapStack fun s =>
    let heads := s.heads.toList
    { s with heads :=
        (heads.take first ++ (heads.drop first).filter (·.status.isActive)).toArray }

/-! ## Skipping -/

/-- Whether a token may stand anywhere. -/
def isExtraToken (p : Parse) (symbol : Nat) : Bool × Parse :=
  let (actions, p) := p.actions Automaton.startState symbol
  (actions.getLast? == some .shiftExtra, p)

/-- Gives a reading up. -/
def halt (p : Parse) (v : Nat) : Parse :=
  p.mapStack (·.mapHead v fun h => { h with status := .halted })

/-- Skipped pieces on their way to becoming an error node. -/
def skippedPieces (p : Parse) (v : Nat) (children : List Subtree) : Subtree :=
  .branch p.source skippedSymbol false [] none (p.stack.position v) children

/-- Takes back the piece skipped last, so that another can join it. -/
def unskip (p : Parse) (v : Nat) : List Subtree × Parse :=
  let (stack, slices) := p.stack.popCount v 1
  let p := { p with stack }
  match slices with
  | [] => ([], p)
  | x :: rest =>
    let p := if rest.isEmpty then p
      else p.mapStack fun s => { s with heads := s.heads.shrink (x.head + 1) }
    (x.subtrees, p.mapStack (·.renumber x.head v))

/-- Skips a token: it joins the pieces skipped before it. -/
def skipToken (p : Parse) (v : Nat) (token : Subtree) : Parse :=
  let (extra, p) := p.isExtraToken token.info.symbol
  let token := if extra then token.mapInfo fun i => { i with extra := true } else token
  let piece := p.skippedPieces v [token]
  let (before, p) := if 0 < p.stack.countSinceError v then p.unskip v else ([], p)
  let piece := if before.isEmpty then piece else p.skippedPieces v (before ++ [piece])
  p.mapStack (·.push v (some piece) Automaton.errorState)

/-- Goes on with a reading that is in an error: back to an earlier state, or past
the token; at the end of the text the reading ends. -/
def recover (p : Parse) (v : Nat) (token : Subtree) : Parse :=
  let readings := p.stack.heads.size
  let p := p.mapStack (·.settle v)
  let marks := ((p.stack.head v).landmarks).getD []
  let (went, p) :=
    if token.info.symbol = errorSymbol then (false, p)
    else p.recoverToLandmark v token readings marks
  let p := p.dropInactive readings
  if went && maxReadings < p.stack.heads.size then p.halt v
  else if token.info.symbol = Language.endOfText then
    let place := p.stack.position v
    let rest := Subtree.error p.source place false []
    (p.mapStack (·.push v (some rest) Automaton.startState)).accept v token
  else
    let i := token.info
    let cost := p.stack.errorCost v + Subtree.skippedTreeCost + (i.stop - i.padding) +
      (p.source.row i.stop - p.source.row i.padding) * Subtree.skippedLineCost
    let (better, p) := p.betterExists v cost false
    if better then p.halt v else p.skipToken v token

/-! ## Missing tokens -/

/-- Whether a state begins a reduction when it sees a token. -/
def beginsReduction (p : Parse) (state symbol : Nat) : Bool × Parse :=
  let (actions, p) := p.actions state symbol
  match actions.head? with
  | some (.reduce _) => (true, p)
  | _ => (false, p)

/-- Tries to supply one of some tokens to a reading so that the next token can be
read. -/
def supplyMissing (p : Parse) (v state place : Nat) (next : Nat) : List Nat → Bool × Parse
  | [] => (false, p)
  | symbol :: rest =>
    let (after, p) := p.nextState state symbol
    if after = Automaton.errorState || after = state then supplyMissing p v state place next rest
    else
      let (reduces, p) := p.beginsReduction after next
      if !reduces then supplyMissing p v state place next rest
      else
        let missing := (p.tokenTree symbol place place place).mapInfo fun i =>
          { i with missing := true }
        let w := p.stack.heads.size
        let p := p.mapStack fun s => (s.copy v).push w (some missing) after
        let (reads, p) := p.reduceAll w (some next)
        if reads then (true, p) else supplyMissing p v state place next rest

/-- Begins an error on a reading and on those that came of its reductions. -/
def beginErrors (first count place : Nat) (next : Nat) (version : Nat) :
    Nat → Nat → Bool → Parse → Parse
  | 0, _, _, p => p
  | fuel + 1, v, supplied, p =>
    if count ≤ v then p
    else
      let state := p.stack.state v
      let (supplied, p) :=
        if supplied || state = Automaton.errorState then (supplied, p)
        else p.supplyMissing v state place next (p.expectedTokens state)
      let p := p.mapStack (·.push v none Automaton.errorState)
      beginErrors first count place next version fuel (if v = version then first else v + 1)
        supplied p

/-- Handles a token that a reading cannot use. -/
def handleError (p : Parse) (v : Nat) (token : Subtree) : Parse :=
  let before := p.stack.heads.size
  let (_, p) := p.reduceAll v none
  let count := p.stack.heads.size
  let place := p.stack.position v
  let p := beginErrors before count place token.info.firstLeaf v (count + 1) v false p
  let p := (List.range (count - before)).foldl (fun p _ =>
    if p.stack.canMerge v before then p.mapStack (·.merge v before) else p) p
  (p.mapStack (·.noteLandmarks v landmarkDepth)).recover v token

end Parse

end CallAtlas
