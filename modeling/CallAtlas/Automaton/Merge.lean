import CallAtlas.Automaton.Basic
import CallAtlas.Lexical.Conflict

/-!
# Joining states

The automaton that goes on after errors is the one with few states: states with
the same items are one state, whatever may follow there, unless their actions
differ or one expects a token that could be found in the place of a token that
the other expects. A state that can only reduce to a hidden rule of one symbol
is passed over.
-/

namespace CallAtlas

/-- The actions and successors of a state, by ascending symbol. -/
structure StateRow where
  actions : Array (Nat × List Action)
  gotos : Array (Nat × Nat)
  expected : TokenSet
  deriving Inhabited

namespace Automaton

/-! ## All states -/

/-- The symbols that can follow in a state. -/
def outgoing (a : Automaton) (openings : Array (List Nat)) (k : Kernel)
    (closure : Std.HashMap Nat TokenSet) : List Nat :=
  let own := k.toList.filterMap fun (number, _) => (a.item number).next
  let joined := closure.toList.flatMap fun (rule, _) => openings.getD rule []
  (TokenSet.ofList (own ++ joined)).toList

/-- Finds all actions and successors of a state. -/
def row (a : Automaton) (openings : Array (List Nat)) (state : Nat) : StateRow × Automaton :=
  let (closure, a) := a.closure state
  let expected := a.expectedAt state
  let (actions, a) := expected.toList.foldl (fun (acc, a) token =>
    let (actions, a) := a.actionsOn state token
    (acc.push (token, actions), a)) ((#[] : Array (Nat × List Action)), a)
  let (gotos, a) := (a.outgoing openings (a.kernel state) closure).foldl (fun (acc, a) symbol =>
    if a.language.isTerminal symbol then (acc, a)
    else
      let (target, a) := a.successor state symbol
      (acc.push (symbol, target), a)) ((#[] : Array (Nat × Nat)), a)
  (⟨actions, gotos, expected⟩, { a with closures := a.closures.erase state })

/-- The rows of all states from a number on. -/
def rowsFrom (openings : Array (List Nat)) : Nat → Nat → Automaton → Array StateRow →
    Automaton × Array StateRow
  | 0, _, a, rows => (a, rows)
  | fuel + 1, state, a, rows =>
    if a.kernels.size ≤ state then (a, rows)
    else
      let (row, a) := a.row openings state
      rowsFrom openings fuel (state + 1) a (rows.push row)

/-- More states than any language has. -/
def stateLimit : Nat := 1000000

/-- Every state with its row; the error state has none. -/
def allRows (a : Automaton) : Automaton × Array StateRow :=
  let openings := a.language.productions.foldl (fun acc p =>
    match p.steps[0]? with
    | none => acc
    | some s => acc.modify (p.head - a.language.firstRule) (s.symbol :: ·))
    (Array.replicate (a.language.symbols.size - a.language.firstRule) ([] : List Nat))
  let openings := openings.map Expansion.distinct
  rowsFrom openings stateLimit startState a #[⟨#[], #[], .empty⟩]

end Automaton

/-! ## Groups of states -/

/-- States in groups that are to become one state each. -/
structure Grouping where
  groups : Array (List Nat)
  groupOf : Array Nat
  deriving Inhabited

namespace Grouping

/-- The group of a state. -/
def of (g : Grouping) (state : Nat) : Nat := g.groupOf.getD state 0

/-- States with the same items are in one group, the error state is alone. -/
def byItems (kernels : Array Kernel) : Grouping :=
  let (groups, groupOf, _) := kernels.toList.zipIdx.foldl
    (fun (groups, groupOf, known) (k, state) =>
      let items := k.toList.map (·.1)
      match (known : Std.HashMap (List Nat) Nat)[items]? with
      | some g => (groups.modify g (state :: ·), groupOf.push g, known)
      | none => (groups.push [state], groupOf.push groups.size, known.insert items groups.size))
    ((#[] : Array (List Nat)), (#[] : Array Nat), (∅ : Std.HashMap (List Nat) Nat))
  ⟨groups.map List.reverse, groupOf⟩

/-- The states of a group that are to leave it: those that differ from an earlier
one that stays. -/
def leavers (differ : Nat → Nat → Bool) : List Nat → List Nat → List Nat
  | [], gone => gone
  | s :: rest, gone =>
    if gone.contains s then leavers differ rest gone
    else leavers differ rest
      (gone ++ rest.filter fun r => !gone.contains r && differ s r)

/-- Splits group `i` and those after it, new ones included. -/
def splitFrom (differ : Grouping → Nat → Nat → Bool) : Nat → Nat → Bool → Grouping →
    Bool × Grouping
  | 0, _, changed, g => (changed, g)
  | fuel + 1, i, changed, g =>
    match g.groups[i]? with
    | none => (changed, g)
    | some states =>
      let gone := leavers (differ g) states []
      if gone.isEmpty then splitFrom differ fuel (i + 1) changed g
      else
        let number := g.groups.size
        let groups := (g.groups.set! i (states.filter fun s => !gone.contains s)).push gone
        let groupOf := gone.foldl (fun acc s => acc.set! s number) g.groupOf
        splitFrom differ fuel (i + 1) true ⟨groups, groupOf⟩

/-- Splits every group once. -/
def split (differ : Grouping → Nat → Nat → Bool) (g : Grouping) : Bool × Grouping :=
  splitFrom differ (2 * g.groupOf.size + 1) 0 false g

/-- Splits until nothing changes. -/
def splitAll (differ : Grouping → Nat → Nat → Bool) : Nat → Grouping → Grouping
  | 0, g => g
  | rounds + 1, g =>
    let (changed, g) := g.split differ
    if changed then splitAll differ rounds g else g

/-! ## When states must stay apart -/

/-- Whether two actions come to the same once states are joined. -/
def sameAction (g : Grouping) : Action → Action → Bool
  | .shift s r, .shift t q => r == q && g.of s == g.of t
  | a, b => a == b

/-- Whether two lists of actions come to the same. -/
def sameActions (g : Grouping) (a b : List Action) : Bool :=
  a.length == b.length && (a.zip b).all fun (x, y) => g.sameAction x y

/-- Whether rows differ in the actions of a token that both have. -/
def actionsDiffer (g : Grouping) (a b : StateRow) : Bool :=
  go 0 0 (a.actions.size + b.actions.size)
where
  go (i j : Nat) : Nat → Bool
    | 0 => false
    | fuel + 1 =>
      match a.actions[i]?, b.actions[j]? with
      | some (s, xs), some (t, ys) =>
        if s < t then go (i + 1) j fuel
        else if t < s then go i (j + 1) fuel
        else !g.sameActions xs ys || go (i + 1) (j + 1) fuel
      | _, _ => false

/-- What a token must not be joined with. -/
structure Barrier where
  /-- By token the tokens that it could be found in the place of. -/
  clashes : Array TokenSet
  /-- Tokens that the scanner has a part in. -/
  scanned : TokenSet

/-- Whether a state may not come to expect some new tokens. -/
def Barrier.bars (b : Barrier) (expected new : TokenSet) : Bool :=
  !(new.inter b.scanned).isEmpty ||
    new.toList.any fun t => !((b.clashes.getD t .empty).inter expected).isEmpty

/-- Whether two states must stay apart for their actions or tokens. -/
def mustDiffer (rows : Array StateRow) (b : Barrier) (g : Grouping) (s t : Nat) : Bool :=
  let x := rows.getD s default
  let y := rows.getD t default
  g.actionsDiffer x y || b.bars y.expected (x.expected.diff y.expected) ||
    b.bars x.expected (y.expected.diff x.expected)

/-- The state that a token's last action shifts to. -/
def shiftTarget : List Action → Option Nat
  | [] => none
  | actions => match actions.getLast? with
    | some (.shift s _) => some s
    | _ => none

/-- Whether two states lead to different groups on a symbol that both have. -/
def successorsDiffer (rows : Array StateRow) (g : Grouping) (s t : Nat) : Bool :=
  let x := rows.getD s default
  let y := rows.getD t default
  let shifts := fun (r : StateRow) => r.actions.filterMap fun (token, actions) =>
    (shiftTarget actions).map (token, ·)
  apart (shifts x) (shifts y) 0 0 (x.actions.size + y.actions.size) ||
    apart x.gotos y.gotos 0 0 (x.gotos.size + y.gotos.size)
where
  apart (xs ys : Array (Nat × Nat)) (i j : Nat) : Nat → Bool
    | 0 => false
    | fuel + 1 =>
      match xs[i]?, ys[j]? with
      | some (s, a), some (t, b) =>
        if s < t then apart xs ys (i + 1) j fuel
        else if t < s then apart xs ys i (j + 1) fuel
        else g.of a != g.of b || apart xs ys (i + 1) (j + 1) fuel
      | _, _ => false

end Grouping

/-! ## The joined automaton -/

namespace Automaton

/-- The tokens that may not be joined with others. Keywords never stand in the
way of names, because they are found as names. -/
def barrier (l : Language) (lexer : Lexer) (conflicts : ConflictTable) : Grouping.Barrier :=
  let tokens := (List.range l.firstExternal).drop 1
  { clashes := Array.ofFn fun (t : Fin l.firstExternal) =>
      .ofList (tokens.filter fun e =>
        !(lexer.keywordSet.contains t.val && e = Language.word) &&
          (conflicts.get t.val e).replaces)
    scanned := .ofList (((List.range l.firstRule).drop l.firstExternal) ++
      l.externals.map (·.symbol)) }

/-- The row of a group: what any of its states does. -/
def joinRows (g : Grouping) (rows : List StateRow) : StateRow :=
  let renamed : Action → Action
    | .shift s r => .shift (g.of s) r
    | a => a
  let actions := rows.foldl (fun m r => r.actions.foldl (fun m (t, xs) =>
    if m.contains t then m else m.insert t (xs.map renamed)) m) (∅ : Std.HashMap Nat (List Action))
  let gotos := rows.foldl (fun m r => r.gotos.foldl (fun m (t, s) =>
    if m.contains t then m else m.insert t (g.of s)) m) (∅ : Std.HashMap Nat Nat)
  { actions := (actions.toList.mergeSort fun x y => x.1 ≤ y.1).toArray
    gotos := (gotos.toList.mergeSort fun x y => x.1 ≤ y.1).toArray
    expected := rows.foldl (fun acc r => acc.union r.expected) .empty }

/-- Whether a production only puts one symbol under a hidden rule, with nothing
to be seen in the tree. -/
def isBare (a : Automaton) (r : Reduction) : Bool :=
  r.count = 1 && r.weight = 0 &&
    (match a.language.productions[r.production]? with
      | some p => p.steps.all fun s =>
        s.shown.isNone && s.field.isNone && !a.table.inherits.getD s.symbol false
      | none => false)

/-- Whether an action only reduces to a hidden rule. -/
def onlyReducesTo (a : Automaton) (rule : Nat) : Action → Bool
  | .reduce r => a.isBare r && r.symbol == rule
  | _ => false

/-- The hidden rule that a state can only reduce to. -/
def passedOver (a : Automaton) (isPassable : Nat → Bool) (row : StateRow) : Option Nat :=
  let all : List Action := row.actions.toList.flatMap (·.2)
  let actions := all.filter (· ≠ .shiftExtra)
  match actions.head? with
  | some (.reduce r) =>
    if isPassable r.symbol && actions.all (a.onlyReducesTo r.symbol) then some r.symbol else none
  | _ => none

/-- Follows successors past states that are passed over. -/
def passOver (passed : Std.HashMap Nat Nat) (gotos : Std.HashMap Nat Nat) : Nat → Nat → Nat
  | 0, s => s
  | fuel + 1, s => match passed[s]? with
    | none => s
    | some rule => match gotos[rule]? with
      | some t => if t = s then s else passOver passed gotos fuel t
      | none => s

/-- The joined automaton as rows; the start state keeps its number. -/
def joined (a : Automaton) (rows : Array StateRow) (b : Grouping.Barrier) : Array StateRow :=
  let g := Grouping.byItems a.kernels
  let (_, g) := g.split (Grouping.mustDiffer rows b)
  let g := g.splitAll (Grouping.successorsDiffer rows) g.groupOf.size
  let merged := g.groups.map fun states => joinRows g (states.map fun s => rows.getD s default)
  let l := a.language
  let renamed : Std.HashSet Nat := l.productions.foldl (fun acc p => p.steps.foldl (fun acc s =>
    if s.shown.isSome then acc.insert s.symbol else acc) acc) ∅
  let isPassable := fun symbol =>
    !renamed.contains symbol && (match l.symbols[symbol]? with
      | some s => s.shown.isNone && !s.supertype
      | none => false)
  let passed : Std.HashMap Nat Nat := .ofList (merged.toList.zipIdx.filterMap fun (row, s) =>
    (a.passedOver isPassable row).map (s, ·))
  merged.map fun row =>
    let gotos : Std.HashMap Nat Nat := .ofList row.gotos.toList
    let past := passOver passed gotos merged.size
    { row with
      actions := row.actions.map fun (t, xs) => (t, xs.map fun
        | .shift s r => .shift (past s) r
        | x => x)
      gotos := row.gotos.map fun (t, s) => (t, past s) }

/-- An automaton that answers from rows alone. -/
def ofRows (a : Automaton) (rows : Array StateRow) : Automaton :=
  let size := a.language.symbols.size
  let numbered := rows.toList.zipIdx
  { a with
    kernels := #[], numbers := ∅, closures := ∅
    actions := numbered.foldl (fun m (row, s) => row.actions.foldl (fun m (t, xs) =>
      m.insert (s * size + t) xs) m) ∅
    gotos := numbered.foldl (fun m (row, s) => row.gotos.foldl (fun m (t, x) =>
      m.insert (s * size + t) x) m) ∅
    expected := rows.map (·.expected) }

end Automaton

end CallAtlas
