import CallAtlas.Grammar.Production
import CallAtlas.Number.Basic
import Std.Data.HashMap

/-!
# Numbered grammars

A grammar made ready for an automaton. Symbols are numbers: 0 is the end of the
text, then come the tokens with the word token first, then the tokens that only
the scanner finds, then the rules. Repetitions have become rules of their own,
and every rule a list of productions.
-/

namespace CallAtlas

/-- A production with its left-hand side. -/
structure Production where
  head : Nat
  weight : Int
  steps : Array Step
  deriving Inhabited

/-- What is known of a symbol. -/
structure SymbolInfo where
  name : String
  /-- The name under which trees show the symbol, `none` where they hide it. -/
  shown : Option Alias
  /-- A rule that stands for a repetition. -/
  repetition : Bool
  /-- A rule that only groups others. -/
  supertype : Bool
  deriving Inhabited

/-- A token that the scanner is asked about. -/
structure External where
  name : String
  symbol : Nat
  deriving Inhabited

/-- A numbered grammar. -/
structure Language where
  symbols : Array SymbolInfo
  /-- The token of symbol `k + 1`. -/
  tokens : Array Lexeme
  externals : List External
  extras : List Nat
  firstRule : Nat
  productions : Array Production
  precedences : List (List Rank)
  deriving Inhabited

namespace Language

/-- The end of the text. -/
def endOfText : Nat := 0

/-- The token from which keywords are set apart. -/
def word : Nat := 1

/-- The symbols up to and without the first that only the scanner finds. -/
def firstExternal (l : Language) : Nat := l.tokens.size + 1

/-- Whether the symbol is a token, the end of the text included. -/
def isTerminal (l : Language) (symbol : Nat) : Bool := symbol < l.firstRule

/-- The name that the grammar gives a symbol. -/
def name (l : Language) (symbol : Nat) : String :=
  match l.symbols[symbol]? with
  | some s => s.name
  | none => ""

/-- Whether the symbol stands for a repetition. -/
def isRepetition (l : Language) (symbol : Nat) : Bool :=
  match l.symbols[symbol]? with
  | some s => s.repetition
  | none => false

end Language

namespace Grammar

/-! ## Tokens -/

/-- All tokens in the order in which the rules mention them first. -/
def lexemes (g : Grammar) : List Lexeme :=
  Expansion.distinct (g.rules.flatMap fun (_, body) => body.leaves.filterMap fun
    | .token l => some l
    | .rule _ => none)

/-- How often the rules and the scanner mention a token. -/
def mentions (g : Grammar) (l : Lexeme) : Nat :=
  Number.total (g.rules.map fun (_, body) => body.leaves.count (.token l)) +
    g.externals.countP fun
      | .text t => l = Lexeme.literal t
      | _ => false

/-- The token that a rule only gives a name to: the rule is that token, and
nothing else mentions it. -/
def namedToken? (g : Grammar) (name : String) : Option Lexeme :=
  match g.rules.lookup name with
  | some (.leaf (.token l)) =>
    if (l.fixed.isNone || !g.isHidden name) && g.mentions l = 1 then some l else none
  | _ => none

/-! ## Repetitions -/

/-- The rules made for repetitions so far. -/
structure Repetitions where
  /-- The number of the next one. -/
  next : Nat
  known : List (Rule Nat × Nat)
  made : List (Nat × Rule Nat)

/-- Replaces every repetition by a rule `r → r r | body`. Equal bodies share one. -/
def unroll : Rule Nat → Repetitions → Rule Nat × Repetitions
  | .blank, k => (.blank, k)
  | .leaf a, k => (.leaf a, k)
  | .next p q, k =>
    let (p, k) := unroll p k
    let (q, k) := unroll q k
    (.next p q, k)
  | .either p q, k =>
    let (p, k) := unroll p k
    let (q, k) := unroll q k
    (.either p q, k)
  | .repeat1 r, k =>
    let (body, k) := unroll r k
    match k.known.lookup body with
    | some symbol => (.leaf symbol, k)
    | none =>
      let self : Rule Nat := .leaf k.next
      let made := (k.next, .either (.next self self) body) :: k.made
      (self, ⟨k.next + 1, (body, k.next) :: k.known, made⟩)
  | .field n r, k => let (r, k) := unroll r k; (.field n r, k)
  | .shown a r, k => let (r, k) := unroll r k; (.shown a r, k)
  | .prec l s r, k => let (r, k) := unroll r k; (.prec l s r, k)
  | .dynamic w r, k => let (r, k) := unroll r k; (.dynamic w r, k)

/-! ## Names in the tree -/

/-- For each symbol the names under which productions show it and how often;
`none` counts the places that give it no name of its own. -/
def namings (steps : List Step) : Std.HashMap Nat (List (Option Alias × Nat)) :=
  steps.foldl (fun m s =>
    let old := m.getD s.symbol []
    let new := match old.lookup s.shown with
      | some n => old.map fun (a, k) => if a = s.shown then (a, n + 1) else (a, k)
      | none => old ++ [(s.shown, 1)]
    m.insert s.symbol new) ∅

/-- The commonest name, the first of those that are equally common. -/
def commonest : List (Option Alias × Nat) → Option (Option Alias × Nat)
  | [] => none
  | x :: rest => match commonest rest with
    | some y => if x.2 < y.2 then some y else some x
    | none => some x

/-- A symbol that is given a name wherever it occurs is shown under the
commonest of them everywhere. -/
def usualName (m : Std.HashMap Nat (List (Option Alias × Nat))) (symbol : Nat) : Option Alias :=
  match m[symbol]? with
  | none => none
  | some uses =>
    if uses.any (·.1.isNone) then none
    else (commonest uses).bind (·.1)

/-- Leaves out the names that say no more than a symbol's usual name. A name stays
where another production of the rule gives it at the same place to a symbol of a
different usual name. -/
def withoutUsualNames (usual : Nat → Option Alias) (es : List Expansion) : List Expansion :=
  let redundant : Nat → Step → Bool := fun place s =>
    s.shown.isSome && s.shown == usual s.symbol &&
      !es.any fun e => match e.steps[place]? with
        | some x => x.shown == s.shown && usual x.symbol != s.shown
        | none => false
  es.map fun e =>
    let steps := e.steps.zipIdx.map fun (s, place) =>
      if redundant place s then { s with shown := none } else s
    { e with steps }

/-! ## Numbering -/

/-- The grammar with its symbols numbered and its rules taken apart. -/
def language (g : Grammar) : Language :=
  let named : List (Lexeme × String) :=
    (g.rules.drop 1).filterMap fun (name, _) => (g.namedToken? name).map (·, name)
  let tokenOfRule := fun name => (named.find? (·.2 = name)).map (·.1)
  let ruleOfToken := fun l => named.lookup l
  let (words, others) := g.lexemes.partition fun l => tokenOfRule g.word = some l
  let tokens := words ++ others
  let scanned := g.externals.filterMap fun
    | .only name => some name
    | _ => none
  let rules := g.rules.filter fun (name, _) => (tokenOfRule name).isNone
  let firstExternal := tokens.length + 1
  let firstRule := firstExternal + scanned.length
  let tokenNumbers : Std.HashMap Lexeme Nat :=
    (tokens.zipIdx 1).foldl (fun m (l, k) => m.insert l k) ∅
  let ruleNumbers : Std.HashMap String Nat :=
    ((scanned ++ rules.map (·.1)).zipIdx firstExternal).foldl (fun m (n, k) => m.insert n k) ∅
  let numberOfToken := fun l => tokenNumbers.getD l 0
  let numberOfName := fun name => match tokenOfRule name with
    | some l => numberOfToken l
    | none => ruleNumbers.getD name 0
  let number : Leaf → Nat
    | .token l => numberOfToken l
    | .rule name => numberOfName name
  let (bodies, reps) := rules.foldl (fun (acc, k) (_, body) =>
    let (r, k) := unroll (body.map number) k
    (r :: acc, k))
    (([] : List (Rule Nat)), (⟨firstRule + rules.length, [], []⟩ : Repetitions))
  let repetitions := reps.made.reverse
  let raw := (bodies.reverse ++ repetitions.map (·.2)).map Expansion.ofBody
  let isInlined : Std.HashSet Nat := g.inlined.foldl (fun s name => s.insert (numberOfName name)) ∅
  let extras := g.extras.map numberOfName
  let isInlinedRule := fun symbol => firstRule ≤ symbol && isInlined.contains symbol
  let uses := namings (
    (raw.flatMap fun es => es.flatMap (·.steps)).filter (fun s => !isInlinedRule s.symbol) ++
    extras.map fun e => ⟨e, none, none, none, none⟩)
  let expansions := (raw.map (withoutUsualNames (usualName uses))).toArray
  let inlined := fun symbol =>
    if isInlinedRule symbol then expansions[symbol - firstRule]? else none
  let productions := expansions.toList.zipIdx firstRule |>.flatMap fun (es, head) =>
    if isInlined.contains head then []
    else (Expansion.distinct (es.flatMap (Expansion.inlineAll inlined 16))).map fun e =>
      ({ head, weight := e.weight, steps := e.steps.toArray } : Production)
  let visible : String → Option Alias := fun name =>
    if g.isHidden name then none else some ⟨name, true⟩
  let tokenInfos := tokens.map fun l => match ruleOfToken l with
    | some name => (name, visible name)
    | none => (l.name, if l.fixed.isSome then some ⟨l.name, false⟩ else none)
  let infos : List (String × Option Alias × Bool) :=
    ("end", none, false) ::
    (tokenInfos.map fun (n, s) => (n, s, false)) ++
    (scanned.map fun n => (n, visible n, false)) ++
    (rules.map fun (n, _) => (n, visible n, false)) ++
    (repetitions.map fun (k, _) => (s!"repetition {k}", none, true))
  { symbols := (infos.zipIdx.map fun ((name, shown, repetition), k) =>
      { name, shown := (usualName uses k).or shown, repetition
        supertype := g.supertypes.contains name }).toArray
    tokens := tokens.toArray
    externals := g.externals.map fun
      | .only name => ⟨name, numberOfName name⟩
      | .rule name => ⟨name, numberOfName name⟩
      | .text t => ⟨t, numberOfToken (.literal t)⟩
    extras, firstRule
    productions := productions.toArray
    precedences := g.precedences }

end Grammar

end CallAtlas
