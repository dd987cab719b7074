import CallAtlas.Parse.Parser

/-!
# Shifting, reducing and accepting

A reduction takes subtrees from a reading, on every way down that holds enough of
them, and puts the node over them in their place. Where several ways end at one
place, one node is chosen. Readings that have come to the same point are joined.
-/

namespace CallAtlas

namespace Parse

/-- No more readings than this are followed at once. -/
def maxReadings : Nat := 6

/-- So many more may arise within one step. -/
def readingSlack : Nat := 4

/-- A bound on the pairs compared and the steps taken for one text. -/
def effort (p : Parse) : Nat := 64 * (p.source.size + 64)

/-- Reads a token into a reading. -/
def shift (p : Parse) (v state : Nat) (token : Subtree) (extra : Bool) : Parse :=
  let token := if token.children.isEmpty then token.mapInfo fun i => { i with extra } else token
  p.mapStack (·.push v (some token) state)

/-- The slices of one reading after another: each reading with its slices. -/
def groupSlices : List StackSlice → List (Nat × List (List Subtree))
  | [] => []
  | x :: rest => match groupSlices rest with
    | (v, trees) :: groups =>
      if v = x.head then (v, x.subtrees :: trees) :: groups
      else (x.head, [x.subtrees]) :: (v, trees) :: groups
    | [] => [(x.head, [x.subtrees])]

/-- The node over the best of several lists of children, and the extras that
follow it. -/
def bestParent (p : Parse) (symbol : Nat) (production : Nat) (place : Nat) :
    List (List Subtree) → Option (Subtree × List Subtree)
  | [] => none
  | first :: others =>
    let build := fun production children => p.reducedTree symbol production place children
    let (children, trailing) := Subtree.splitExtras first
    some <| others.foldl (fun (best, trailing) trees =>
      let (children, trailing') := Subtree.splitExtras trees
      if Subtree.prefersSecond p.effort best (build none children) then
        (build (some production) children, trailing')
      else (best, trailing)) (build (some production) children, trailing)

/-- Puts the node of a reduction on one reading that was popped to. -/
def pushReduced (p : Parse) (v but : Nat) (r : Reduction) (slices : List (List Subtree)) :
    Parse × Bool :=
  match p.bestParent r.symbol r.production (p.stack.position v) slices with
  | none => (p, false)
  | some (parent, trailing) =>
    let (state, p) := p.nextState (p.stack.state v) r.symbol
    let parent := parent.mapInfo fun i => { i with weight := i.weight + r.weight }
    let p := p.mapStack fun s =>
      trailing.foldl (fun s t => s.push v (some t) state) (s.push v (some parent) state)
    match p.stack.mergeTarget? v 0 (some but) with
    | some j => (p.mapStack (·.merge j v), true)
    | none => (p, false)

/-- Reduces a reading. Answers the first reading that came of it. -/
def reduce (p : Parse) (v : Nat) (r : Reduction) : Option Nat × Parse :=
  let before := p.stack.heads.size
  let (stack, slices) := p.stack.popCount v r.count
  let p := { p with stack }
  let (p, _) := (groupSlices slices).foldl (fun (p, removed) (number, trees) =>
    let w := number - removed
    if maxReadings + readingSlack < w then (p.mapStack (·.remove w), removed + 1)
    else
      let (p, merged) := p.pushReduced w v r trees
      (p, if merged then removed + 1 else removed)) (p, 0)
  (if before < p.stack.heads.size then some before else none, p)

/-- The tree of a finished reading: the last node that is no extra takes in the
extras around it. -/
def rootOf (p : Parse) (trees : List Subtree) : Option Subtree :=
  let (before, after) := Subtree.splitExtras trees
  match before.getLast? with
  | none => none
  | some root =>
    let all := before.dropLast ++ root.children ++ after
    some (p.reducedTree root.info.symbol root.info.production 0 all)

/-- Keeps the better of the tree so far and another. -/
def offer (p : Parse) (tree : Subtree) : Parse :=
  let finished := match p.finished with
    | none => tree
    | some old => if Subtree.prefersSecond p.effort old tree then tree else old
  { p with finished := some finished, acceptCount := p.acceptCount + 1 }

/-- Ends a reading with the end of the text. -/
def accept (p : Parse) (v : Nat) (token : Subtree) : Parse :=
  let p := p.mapStack (·.push v (some token) Automaton.startState)
  let (stack, slices) := p.stack.popAll v
  let p := { p with stack }
  let p := slices.foldl (fun p x => match p.rootOf x.subtrees with
    | some root => p.offer root
    | none => p) p
  match slices with
  | [] => p
  | x :: _ => p.mapStack fun s => (s.remove x.head).mapHead v fun h => { h with status := .halted }

/-! ## Reductions without a token -/

/-- The symbols to be tried when no token is given: every token with an action
besides the end of the text. -/
def expectedTokens (p : Parse) (state : Nat) : List Nat :=
  (p.parser.automaton.expectedAt state).toList.filter (· ≠ Language.endOfText)

/-- What can be done in a state: whether a token can be read, and the reductions
that take something, each symbol and count once. -/
def possibilities (p : Parse) (state : Nat) (token : Option Nat) : Bool × List Reduction × Parse :=
  if state = Automaton.errorState then (true, [], p)
  else
    let tokens := match token with
      | some t => [t]
      | none => p.expectedTokens state
    let (canShift, reductions, p) := tokens.foldl (fun (canShift, reductions, p) t =>
      let (actions, p) := p.actions state t
      let (canShift, reductions) := actions.foldl (fun (canShift, reductions) a =>
        match a with
        | .shift _ false => (true, reductions)
        | .reduce r =>
          if r.count = 0 || reductions.any fun (x : Reduction) =>
              x.symbol == r.symbol && x.count == r.count then (canShift, reductions)
          else (canShift, r :: reductions)
        | _ => (canShift, reductions)) (canShift, reductions)
      (canShift, reductions, p)) (false, ([] : List Reduction), p)
    (canShift, reductions.reverse, p)

/-- Does every reduction that is possible from a reading on, until `v` passes the
last reading. `token` is the token to be read afterwards, `none` for any; readings
that cannot read it are dropped. Answers whether some reading can. -/
def reduceAllFrom (start before : Nat) (token : Option Nat) :
    Nat → Nat → Nat → Bool → Parse → Bool × Parse
  | 0, _, _, can, p => (can, p)
  | fuel + 1, i, v, can, p =>
    let count := p.stack.heads.size
    if count ≤ v then (can, p)
    else
      match p.stack.mergeTarget? v before none with
      | some j => reduceAllFrom start before token fuel (i + 1) v can (p.mapStack (·.merge j v))
      | none =>
        let (canShift, reductions, p) := p.possibilities (p.stack.state v) token
        let (last, p) := reductions.foldl (fun (_, p) r => p.reduce v r) ((none : Option Nat), p)
        let next := if v = start then count else v + 1
        if canShift then reduceAllFrom start before token fuel (i + 1) next true p
        else match last with
          | some w =>
            if i < maxReadings then
              reduceAllFrom start before token fuel (i + 1) v can (p.mapStack (·.renumber w v))
            else dropUnless start before token fuel i v next can p
          | none => dropUnless start before token fuel i v next can p
where
  dropUnless (start before : Nat) (token : Option Nat) (fuel i v next : Nat) (can : Bool)
      (p : Parse) : Bool × Parse :=
    let p := if token.isSome then p.mapStack (·.remove v) else p
    reduceAllFrom start before token fuel (i + 1) next can p

/-- Does every reduction that is possible from a reading on. -/
def reduceAll (p : Parse) (v : Nat) (token : Option Nat) : Bool × Parse :=
  let token := if token = some Language.endOfText then none else token
  reduceAllFrom v p.stack.heads.size token p.effort 0 v false p

end Parse

end CallAtlas
