import CallAtlas.Automaton.TokenSet
import CallAtlas.Grammar.Language

/-!
# Items

An item is a production with a dot: what stands before the dot has been read,
what stands after it is still expected. Two items that agree in everything that
can still matter — what follows, how the read part is named, and the precedence
of the step before the dot — are one item here, so that parser states with the
same future are the same state.

`ItemTable` holds all items of a language, the tokens with which each rule can
begin, and which rules join when a rule is expected.
-/

namespace CallAtlas

/-- A production with a dot, up to what can no longer matter. -/
structure Item where
  /-- The symbol of the production, 0 for the whole text. -/
  head : Nat
  dot : Nat
  /-- The symbol after the dot. -/
  next : Option Nat
  /-- The symbol after that. -/
  afterNext : Option Nat
  /-- Precedence and side of the step before the dot. -/
  level : Option Level
  side : Option Side
  /-- The item with the dot one step further. -/
  advanced : Nat
  /-- A production of which this is an item. -/
  production : Nat
  deriving Inhabited

/-- All that tells one item from another. -/
structure ItemKey where
  head : Nat
  dot : Nat
  weight : Int
  length : Nat
  level : Option Level
  side : Option Side
  inheritsFields : Bool
  read : List (Option Alias × Option String)
  expected : List Step
  deriving BEq, Hashable

/-- A rule that joins when another is expected: what may follow it there, and
whether what follows the expected rule may follow it too. -/
structure Joining where
  rule : Nat
  follow : TokenSet
  inherits : Bool
  deriving Inhabited

/-- An item whose production is empty, as it joins when a rule is expected. -/
structure EmptyJoining where
  item : Nat
  follow : TokenSet
  inherits : Bool
  deriving Inhabited

/-- The items of a language and what can be said of them once and for all.
Rules are counted from the language's first rule. -/
structure ItemTable where
  items : Array Item
  /-- By symbol whether it is hidden and gives fields to what is above it. -/
  inherits : Array Bool
  /-- For each rule the tokens with which it can begin. -/
  first : Array TokenSet
  /-- For each rule the rules that join when it is expected. -/
  joining : Array (List Joining)
  /-- For each rule the empty productions that join when it is expected. -/
  empties : Array (List EmptyJoining)
  /-- For each symbol the rules with productions that begin with it, and the
  items after that first step. -/
  beginnings : Array (List (Nat × List Nat))
  /-- The item that expects a whole text, and the one that has read it. -/
  goal : Nat
  reached : Nat
  deriving Inhabited

namespace ItemTable

/-! ## Fields under hidden rules -/

/-- Whether some step of a production gives a field, itself or through a hidden rule. -/
def givesField (l : Language) (giving : Array Bool) (p : Production) : Bool :=
  p.steps.any fun s => s.field.isSome ||
    (!l.isTerminal s.symbol && s.shown.isNone &&
      ((l.symbols[s.symbol]?).map (·.shown.isNone)).getD false &&
      giving.getD (s.symbol - l.firstRule) false)

/-- One round of finding the rules with fields. -/
def fieldRound (l : Language) (giving : Array Bool) : Array Bool :=
  l.productions.foldl (fun acc p =>
    if givesField l acc p then acc.set! (p.head - l.firstRule) true else acc) giving

/-- The rules under which fields are given: `rounds` rounds, or fewer if one changes nothing. -/
def rulesWithFields (l : Language) : Nat → Array Bool → Array Bool
  | 0, acc => acc
  | rounds + 1, acc =>
    let acc' := fieldRound l acc
    if acc' == acc then acc else rulesWithFields l rounds acc'

/-! ## First tokens -/

/-- The tokens with which a symbol can begin, as known so far. -/
def firstOf (l : Language) (first : Array TokenSet) (symbol : Nat) : TokenSet :=
  if l.isTerminal symbol then .single symbol else first.getD (symbol - l.firstRule) .empty

/-- One round of finding first tokens. -/
def firstRound (l : Language) (first : Array TokenSet) : Array TokenSet :=
  l.productions.foldl (fun acc p =>
    match p.steps[0]? with
    | none => acc
    | some s =>
      let r := p.head - l.firstRule
      acc.set! r ((acc.getD r .empty).union (firstOf l acc s.symbol))) first

/-- First tokens of all rules. -/
def firstTokens (l : Language) : Nat → Array TokenSet → Array TokenSet
  | 0, acc => acc
  | rounds + 1, acc =>
    let acc' := firstRound l acc
    if acc' == acc then acc else firstTokens l rounds acc'

/-! ## Joining rules -/

/-- The rules with which productions of a rule begin, each with the second symbol. -/
abbrev Openings := Array (List (Nat × Option Nat))

/-- The openings of every rule. -/
def openings (l : Language) : Openings :=
  l.productions.foldl (fun acc p =>
    match p.steps[0]? with
    | none => acc
    | some s =>
      if l.isTerminal s.symbol then acc
      else
        let opening := (s.symbol - l.firstRule, p.steps[1]?.map (·.symbol))
        acc.modify (p.head - l.firstRule) (opening :: ·))
    (Array.replicate (l.symbols.size - l.firstRule) [])

/-- Adds what one opening says. Tells whether anything is new. -/
def join (l : Language) (first : Array TokenSet) (origin : Joining)
    (known : Std.HashMap Nat Joining) (opening : Nat × Option Nat) :
    Option Joining :=
  let (rule, second) := opening
  let old := known.getD rule ⟨rule, .empty, false⟩
  let new : Joining := match second with
    | none => { old with
        follow := old.follow.union origin.follow
        inherits := old.inherits || origin.inherits }
    | some x => { old with follow := old.follow.union (firstOf l first x) }
  if known.contains rule && new.follow == old.follow && new.inherits == old.inherits then none
  else some new

/-- Follows openings from the rules still to be visited until nothing is new. -/
def joinAll (l : Language) (first : Array TokenSet) (opens : Openings) :
    Nat → List Nat → Std.HashMap Nat Joining → Std.HashMap Nat Joining
  | 0, _, known => known
  | _, [], known => known
  | fuel + 1, r :: work, known =>
    match known[r]? with
    | none => joinAll l first opens fuel work known
    | some origin =>
      let (work, known) := (opens.getD r []).foldl (fun (work, known) opening =>
        match join l first origin known opening with
        | none => (work, known)
        | some new => (new.rule :: work, known.insert new.rule new)) (work, known)
      joinAll l first opens fuel work known

/-- More visits than any rule's joining takes. -/
def joinLimit : Nat := 1000000

/-- The rules that join when a rule is expected, itself among them. -/
def joiningOf (l : Language) (first : Array TokenSet) (opens : Openings) (r : Nat) :
    List Joining :=
  let known := joinAll l first opens joinLimit [r] { (r, ⟨r, .empty, true⟩) }
  known.toList.map (·.2)

/-! ## Items -/

/-- The key of a production's item. -/
def keyOf (inherits : Nat → Bool) (p : Production) (dot : Nat) : ItemKey :=
  let steps := p.steps.toList
  let read := steps.take dot
  let last := read.getLast?
  { head := p.head, dot, weight := p.weight, length := steps.length
    level := last.bind (·.level), side := last.bind (·.side)
    inheritsFields := read.any fun s => inherits s.symbol
    read := read.map fun s => (s.shown, s.field)
    expected := steps.drop dot }

/-- The items of one production, from the dot at the end to the dot at the
beginning. Each new one is given the next number. -/
def addItems (inherits : Nat → Bool) (p : Production) (index : Nat) :
    Nat → Nat → Std.HashMap ItemKey Nat × Array Item → Std.HashMap ItemKey Nat × Array Item × Nat
  | 0, _, (m, items) => (m, items, 0)
  | dots + 1, advanced, (m, items) =>
    let key := keyOf inherits p dots
    let (m, items, number) := match m[key]? with
      | some k => (m, items, k)
      | none =>
        let item : Item :=
          { head := p.head, dot := dots, next := p.steps[dots]?.map (·.symbol)
            afterNext := p.steps[dots + 1]?.map (·.symbol)
            level := key.level, side := key.side, advanced, production := index }
        (m.insert key items.size, items.push item, items.size)
    if dots = 0 then (m, items, number)
    else addItems inherits p index dots number (m, items)

/-- The items and joinings of a language. -/
def ofLanguage (l : Language) : ItemTable :=
  let count := l.symbols.size - l.firstRule
  let fields := rulesWithFields l count (Array.replicate count false)
  let hidden : Nat → Bool := fun symbol =>
    ((l.symbols[symbol]?).map (·.shown.isNone)).getD false
  let inherits : Nat → Bool := fun symbol =>
    !l.isTerminal symbol && hidden symbol && fields.getD (symbol - l.firstRule) false
  let first := firstTokens l count (Array.replicate count .empty)
  let opens := openings l
  let joining := Array.ofFn fun (r : Fin count) => joiningOf l first opens r
  let (_, items, starts) := l.productions.toList.zipIdx.foldl
    (fun (m, items, starts) (p, index) =>
      let (m, items, number) := addItems inherits p index (p.steps.size + 1) 0 (m, items)
      (m, items, starts.push number))
    ((∅ : Std.HashMap ItemKey Nat), (#[] : Array Item), (#[] : Array Nat))
  let beginnings := l.productions.toList.zipIdx.foldr
    (fun (p, index) (acc : Array (List (Nat × List Nat))) =>
      match p.steps[0]? with
      | none => acc
      | some s =>
        let rule := p.head - l.firstRule
        let after := ((starts[index]?).bind (items[·]?)).map (·.advanced) |>.getD 0
        acc.modify s.symbol fun entries => match entries with
          | (r, known) :: rest =>
            if r = rule then (r, if known.contains after then known else after :: known) :: rest
            else (rule, [after]) :: entries
          | [] => [(rule, [after])])
    (Array.replicate l.symbols.size [])
  let emptyRules := l.productions.toList.zipIdx.filterMap fun (p, index) =>
    if p.steps.isEmpty then some (p.head - l.firstRule, (starts[index]?).getD 0) else none
  let empties := joining.map fun js => js.flatMap fun j =>
    emptyRules.filterMap fun (rule, item) =>
      if rule = j.rule then some ⟨item, j.follow, j.inherits⟩ else none
  let goal := items.size
  let bounds : List Item :=
    [⟨0, 0, some l.firstRule, none, none, none, goal + 1, 0⟩,
     ⟨0, 1, none, none, none, none, 0, 0⟩]
  { items := items ++ bounds
    inherits := (Array.range l.symbols.size).map inherits
    first, joining, empties, beginnings, goal
    reached := goal + 1 }

/-- The tokens with which a symbol can begin. -/
def firstTokensOf (t : ItemTable) (l : Language) (symbol : Nat) : TokenSet :=
  firstOf l t.first symbol

end ItemTable

end CallAtlas
