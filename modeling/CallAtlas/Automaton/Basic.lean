import CallAtlas.Automaton.Item

/-!
# The parser automaton

A state is a set of items, each with the tokens that may follow its production.
State 0 is where the parser is after an error, state 1 is the start. States are
made when they are first reached, and what has been found out about a state is
kept: `gotos` and `actions` are records of answers, so an automaton that has
answered is the same automaton, only faster.

Where a token allows several actions in a state, the precedences of the grammar
choose; what they leave open stays, and the parser follows all of it.
-/

namespace CallAtlas

/-- A production to be reduced. -/
structure Reduction where
  symbol : Nat
  /-- How many subtrees it takes. -/
  count : Nat
  weight : Int
  production : Nat
  deriving DecidableEq, Inhabited, Repr

/-- What the parser may do when it sees a token. -/
inductive Action where
  /-- Read the token. A shift that only continues a repetition is not taken. -/
  | shift (state : Nat) (repetition : Bool)
  /-- Read a token that may stand anywhere. -/
  | shiftExtra
  | reduce (r : Reduction)
  | accept
  deriving DecidableEq, Inhabited, Repr

/-- The items of a state, by ascending number, with what may follow. -/
abbrev Kernel := Array (Nat × TokenSet)

/-- An automaton and what is known of it so far. -/
structure Automaton where
  language : Language
  table : ItemTable
  kernels : Array Kernel
  numbers : Std.HashMap Kernel Nat
  /-- For each state that has been left by a rule or token, what joins in it. -/
  closures : Std.HashMap Nat (Std.HashMap Nat TokenSet)
  /-- State and symbol to the state after the symbol; 0 where there is none. -/
  gotos : Std.HashMap Nat Nat
  actions : Std.HashMap Nat (List Action)
  /-- For each state the tokens with an action. -/
  expected : Array TokenSet
  deriving Inhabited

namespace Automaton

/-- The state after an error. -/
def errorState : Nat := 0

/-- The state before any token. -/
def startState : Nat := 1

/-- State and symbol as one number. -/
def key (a : Automaton) (state symbol : Nat) : Nat :=
  state * a.language.symbols.size + symbol

/-! ## Precedence -/

/-- Whether a ranking's member speaks of a reading with this level and these rules. -/
def speaksOf (r : Rank) (level : Option Level) (rules : List String) : Bool :=
  match r with
  | .level name => level == some (.named name)
  | .rule name => rules.contains name

/-- Which of two readings one ranking puts first; `none` if it does not rank both. -/
def compareIn : List Rank → Option Level → List String → Option Level → List String →
    Bool → Bool → Option Ordering
  | [], _, _, _, _, _, _ => none
  | r :: rest, l, ls, m, ms, seenL, seenM =>
    if speaksOf r l ls then
      if seenM then some .lt else compareIn rest l ls m ms true seenM
    else if speaksOf r m ms then
      if seenL then some .gt else compareIn rest l ls m ms seenL true
    else compareIn rest l ls m ms seenL seenM

/-- Which of two readings is the stronger (`gt` for the first): by their numbers
if one has a number other than 0, else by the first ranking that ranks both. -/
def compareReadings (rankings : List (List Rank)) (l : Option Level) (ls : List String)
    (m : Option Level) (ms : List String) : Ordering :=
  let ranked := (rankings.findSome? fun ranking => compareIn ranking l ls m ms false false).getD .eq
  match l, m with
  | some (.number a), some (.number b) => if a ≠ 0 || b ≠ 0 then compare a b else ranked
  | some (.number a), none => if a ≠ 0 then compare a 0 else ranked
  | none, some (.number b) => if b ≠ 0 then compare 0 b else ranked
  | _, _ => ranked

/-! ## States -/

/-- The item of a number. -/
def item (a : Automaton) (number : Nat) : Item := a.table.items.getD number default

/-- The items of a state. -/
def kernel (a : Automaton) (state : Nat) : Kernel := a.kernels.getD state #[]

/-- What may follow the symbol after the dot of an item. -/
def followOf (a : Automaton) (i : Item) (lookahead : TokenSet) : TokenSet :=
  match i.afterNext with
  | none => lookahead
  | some x => a.table.firstTokensOf a.language x

/-- The rules that join the items of a state, each with what may follow it. -/
def closureOf (a : Automaton) (k : Kernel) : Std.HashMap Nat TokenSet :=
  k.foldl (fun closure (number, lookahead) =>
    let i := a.item number
    match i.next with
    | none => closure
    | some x =>
      if a.language.isTerminal x then closure
      else
        let follow := a.followOf i lookahead
        (a.table.joining.getD (x - a.language.firstRule) []).foldl (fun closure j =>
          let new := if j.inherits then j.follow.union follow else j.follow
          closure.alter j.rule fun
            | none => some new
            | some old => some (old.union new)) closure) ∅

/-- The productions that are complete in a state: items with what may follow. -/
def completed (a : Automaton) (k : Kernel) : List (Nat × TokenSet) :=
  let found := k.toList.flatMap fun (number, lookahead) =>
    let i := a.item number
    match i.next with
    | none => [(number, lookahead)]
    | some x =>
      if a.language.isTerminal x then []
      else
        (a.table.empties.getD (x - a.language.firstRule) []).map fun e =>
          (e.item, if e.inherits then e.follow.union (a.followOf i lookahead) else e.follow)
  found.mergeSort fun x y => x.1 ≤ y.1

/-- The tokens that can be read in a state. -/
def readable (a : Automaton) (k : Kernel) : TokenSet :=
  k.foldl (fun acc (number, _) =>
    match (a.item number).next with
    | none => acc
    | some x => acc.union (a.table.firstTokensOf a.language x)) .empty

/-- The tokens with an action in the state of a kernel. -/
def expectedIn (a : Automaton) (k : Kernel) : TokenSet :=
  (a.completed k).foldl (fun acc (_, lookahead) => acc.union lookahead)
    ((a.readable k).union (.ofList a.language.extras))

/-- Adds items to a kernel under construction. -/
def addTo (m : Std.HashMap Nat TokenSet) (number : Nat) (lookahead : TokenSet) :
    Std.HashMap Nat TokenSet :=
  m.alter number fun
    | none => some lookahead
    | some old => some (old.union lookahead)

/-- A kernel in its one form. -/
def kernelOf (m : Std.HashMap Nat TokenSet) : Kernel :=
  (m.toList.mergeSort fun x y => x.1 ≤ y.1).toArray

/-- The items after a symbol. -/
def after (a : Automaton) (k : Kernel) (closure : Std.HashMap Nat TokenSet) (symbol : Nat) :
    Kernel :=
  let moved := k.foldl (fun m (number, lookahead) =>
    let i := a.item number
    if i.next = some symbol then addTo m i.advanced lookahead else m) ∅
  kernelOf <| (a.table.beginnings.getD symbol []).foldl (fun m (rule, items) =>
    match closure[rule]? with
    | none => m
    | some lookahead => items.foldl (fun m number => addTo m number lookahead) m) moved

/-- The number of a kernel's state, a new one where it has none. -/
def stateOf (a : Automaton) (k : Kernel) : Nat × Automaton :=
  match a.numbers[k]? with
  | some state => (state, a)
  | none =>
    let state := a.kernels.size
    let expected := a.expectedIn k
    (state, { a with
      kernels := a.kernels.push k
      numbers := a.numbers.insert k state
      expected := a.expected.push expected })

/-- What joins in a state. -/
def closure (a : Automaton) (state : Nat) : Std.HashMap Nat TokenSet × Automaton :=
  match a.closures[state]? with
  | some c => (c, a)
  | none =>
    let c := a.closureOf (a.kernel state)
    (c, { a with closures := a.closures.insert state c })

/-- The state after a symbol, 0 where the symbol cannot follow. -/
def successor (a : Automaton) (state symbol : Nat) : Nat × Automaton :=
  let key := a.key state symbol
  match a.gotos[key]? with
  | some target => (target, a)
  | none =>
    if (a.kernel state).isEmpty then (0, a)
    else
      let (c, a) := a.closure state
      let k := a.after (a.kernel state) c symbol
      let (target, a) := if k.isEmpty then (0, a) else a.stateOf k
      (target, { a with gotos := a.gotos.insert key target })

/-! ## Actions -/

/-- The reductions a token allows, as far as precedence keeps them. -/
structure Kept where
  /-- The last first. -/
  actions : List Action
  level : Option Level
  rules : List String
  left : Bool
  right : Bool
  neither : Bool

/-- No reduction yet. -/
def Kept.none : Kept := ⟨[], .none, [], false, false, false⟩

/-- Notes the reading of a reduction that is kept. -/
def Kept.note (k : Kept) (i : Item) (name : String) : Kept :=
  { k with
    level := i.level
    rules := if k.rules.contains name then k.rules else name :: k.rules
    left := k.left || i.side == some .left
    right := k.right || i.side == some .right
    neither := k.neither || i.side == .none }

/-- The reduction of a completed item. -/
def reductionOf (a : Automaton) (number : Nat) : Action :=
  let i := a.item number
  if i.head = 0 then .accept
  else .reduce
    { symbol := i.head, count := i.dot
      weight := (a.language.productions.getD i.production default).weight
      production := i.production }

/-- The name by which rankings know an item's rule. -/
def ruleName (a : Automaton) (i : Item) : String :=
  if i.head = 0 then "" else a.language.name i.head

/-- Weighs one more completed item against those that are kept. -/
def keep (a : Automaton) (k : Kept) (number : Nat) : Kept :=
  let i := a.item number
  let name := a.ruleName i
  let action := a.reductionOf number
  if k.actions.isEmpty then { Kept.none with actions := [action] }.note i name
  else match compareReadings a.language.precedences i.level [name] k.level k.rules with
    | .gt => { Kept.none with actions := [action] }.note i name
    | .eq => { k with actions := action :: k.actions }.note i name
    | .lt => k

/-- Whether a token can begin what an item expects next. -/
def canBegin (a : Automaton) (x token : Nat) : Bool :=
  (a.table.firstTokensOf a.language x).contains token

/-- The items of a state that can read on where a token also allows a reduction. -/
def readers (a : Automaton) (k : Kernel) (token : Nat) : List Item :=
  (k.toList.map fun (number, _) => a.item number).filter fun i =>
    0 < i.dot && (match i.next with
      | some x => a.canBegin x token
      | none => false)

/-- The rules between which a token leaves the choice open. -/
def contenders (a : Automaton) (k : Kernel) (token : Nat) : List Nat :=
  let complete := (k.toList.filter fun (number, lookahead) =>
    (a.item number).next.isNone && lookahead.contains token).map fun (number, _) => a.item number
  (((a.readers k token) ++ complete).map Item.head).filter (· ≠ 0) |>.eraseDups

/-- Chooses between reading a token into a state and the reductions kept. -/
def choose (a : Automaton) (k : Kernel) (token target : Nat) (kept : Kept) : List Action :=
  let reductions := kept.actions.reverse
  match a.contenders k token with
  | [rule] =>
    if a.language.isRepetition rule then reductions ++ [.shift target true]
    else decide kept reductions
  | _ => decide kept reductions
where
  decide (kept : Kept) (reductions : List Action) : List Action :=
    let orders := (a.readers k token).map fun i =>
      compareReadings a.language.precedences i.level [a.ruleName i] kept.level kept.rules
    let stronger := orders.contains .gt
    let weaker := orders.contains .lt
    let shift := Action.shift target false
    if stronger && !weaker then [shift]
    else if weaker && !stronger then reductions
    else if !stronger && !weaker && kept.left && !kept.neither && !kept.right then reductions
    else if !stronger && !weaker && kept.right && !kept.neither && !kept.left then [shift]
    else reductions ++ [shift]

/-- What may be done in a state when a token is seen. -/
def actionsOn (a : Automaton) (state token : Nat) : List Action × Automaton :=
  let key := a.key state token
  match a.actions[key]? with
  | some actions => (actions, a)
  | none =>
    let k := a.kernel state
    if k.isEmpty then ([], a)
    else
      let kept := (a.completed k).foldl (fun kept (number, lookahead) =>
        if lookahead.contains token then a.keep kept number else kept) Kept.none
      let (target, a) :=
        if (a.readable k).contains token then a.successor state token else (0, a)
      let actions :=
        if target = 0 then
          if kept.actions.isEmpty && a.language.extras.contains token then [.shiftExtra]
          else kept.actions.reverse
        else if kept.actions.isEmpty then [.shift target false]
        else a.choose k token target kept
      (actions, { a with actions := a.actions.insert key actions })

/-- The tokens with an action in a state. -/
def expectedAt (a : Automaton) (state : Nat) : TokenSet := a.expected.getD state .empty

/-- The automaton of a language with its start state alone. -/
def ofLanguage (l : Language) : Automaton :=
  let table := ItemTable.ofLanguage l
  let a : Automaton :=
    { language := l, table, kernels := #[#[]], numbers := ∅, closures := ∅, gotos := ∅
      actions := ∅, expected := #[.empty] }
  (a.stateOf #[(table.goal, .single Language.endOfText)]).2

end Automaton

end CallAtlas
