import CallAtlas.Parse.Stack
import CallAtlas.Lexical.Lexer
import CallAtlas.Lexical.Scanner

/-!
# The parser's state

A `Parser` is what a grammar has become: an automaton, a lexer and the
conventions of its scanner. A `Parse` is one text on its way through it. This
file holds the questions that a step asks: which actions a token has, which
state follows, and which token comes next.
-/

namespace CallAtlas

/-- A grammar ready to parse with. -/
structure Parser where
  automaton : Automaton
  lexer : Lexer
  /-- Whether the scanner knows types. -/
  typed : Bool
  /-- Whether the parser goes on after an error. One that does not only tells that
  there is one. -/
  recovers : Bool
  /-- By state the tokens that the lexer looks for; the error state's first.
  States that are not listed look for the tokens they expect. -/
  lookedFor : Array TokenSet
  deriving Inhabited

/-- A text on its way through a parser. -/
structure Parse where
  parser : Parser
  source : SourceText
  stack : Stack
  /-- The best tree so far, and how many there were. -/
  finished : Option Subtree
  acceptCount : Nat
  deriving Inhabited

namespace Parser

/-- The language of a parser. -/
def language (p : Parser) : Language := p.automaton.language

/-- Whether trees show the nodes of a symbol. -/
def isVisible (p : Parser) (symbol : Nat) : Bool :=
  if symbol = errorSymbol then true
  else match p.language.symbols[symbol]? with
    | some s => s.shown.isSome
    | none => false

/-- The tokens that the lexer looks for in a state. Keywords are found as names. -/
def wanted (p : Parser) (state : Nat) : TokenSet :=
  match p.lookedFor[state]? with
  | some s => s
  | none =>
    let expected := p.automaton.expectedAt state
    if (expected.inter p.lexer.keywordSet).isEmpty then expected
    else expected.insert Language.word

/-- The tokens that only the scanner finds. -/
def scannerOnly (p : Parser) : TokenSet :=
  .ofList (p.language.externals.filterMap fun e =>
    if p.language.firstExternal ≤ e.symbol then some e.symbol else none)

/-- The tokens that the scanner is asked about in a state. -/
def scannable (p : Parser) (state : Nat) : TokenSet :=
  if state = Automaton.errorState then (p.wanted state).union p.scannerOnly
  else p.automaton.expectedAt state

/-- The scanner's name of an external token. -/
def externalName : Scan → String
  | .automaticSemicolon => "_automatic_semicolon"
  | .templateChars => "_template_chars"
  | .ternaryMark => "_ternary_qmark"
  | .htmlComment => "html_comment"
  | .jsxText => "jsx_text"

/-- The symbol of an external token. -/
def externalSymbol (p : Parser) (name : String) : Nat :=
  match p.language.externals.find? (·.name = name) with
  | some e => e.symbol
  | none => 0

/-- What the scanner is asked for in a state. -/
def request (p : Parser) (state : Nat) : ScanRequest :=
  let tokens := p.scannable state
  let has : String → Bool := fun name =>
    match p.language.externals.find? (·.name = name) with
    | some e => tokens.contains e.symbol
    | none => false
  { automaticSemicolon := has "_automatic_semicolon"
    templateChars := has "_template_chars"
    ternaryMark := has "_ternary_qmark"
    htmlComment := has "html_comment"
    logicalOr := has "||"
    escapeSequence := has "escape_sequence"
    regexPattern := has "regex_pattern"
    jsxText := has "jsx_text"
    signatureSemicolon := has "_function_signature_automatic_semicolon" }

/-- The steps of a production. -/
def stepsOf (p : Parser) (production : Nat) : List Step :=
  match p.language.productions[production]? with
  | some q => q.steps.toList
  | none => []

end Parser

namespace Parse

/-- Changes the stack. -/
def mapStack (p : Parse) (f : Stack → Stack) : Parse := { p with stack := f p.stack }

/-- The actions of a symbol in a state. Error nodes have none. -/
def actions (p : Parse) (state symbol : Nat) : List Action × Parse :=
  if Subtree.isErrorSymbol symbol then ([], p)
  else
    let (actions, automaton) := p.parser.automaton.actionsOn state symbol
    (actions, { p with parser := { p.parser with automaton } })

/-- Whether a symbol has an action in a state. After an error every token has. -/
def hasActions (p : Parse) (state symbol : Nat) : Bool × Parse :=
  if state = Automaton.errorState then (true, p)
  else
    let (actions, p) := p.actions state symbol
    (!actions.isEmpty, p)

/-- The state after a symbol, the error state where it cannot follow. -/
def nextState (p : Parse) (state symbol : Nat) : Nat × Parse :=
  if Subtree.isErrorSymbol symbol || state = Automaton.errorState then (Automaton.errorState, p)
  else if p.parser.language.isTerminal symbol then
    let (actions, p) := p.actions state symbol
    match actions.getLast? with
    | some (.shift target _) => (target, p)
    | some .shiftExtra => (state, p)
    | _ => (Automaton.errorState, p)
  else
    let (target, automaton) := p.parser.automaton.successor state symbol
    (target, { p with parser := { p.parser with automaton } })

/-- A token as a subtree. -/
def tokenTree (p : Parse) (symbol padding start stop : Nat) : Subtree :=
  .leaf symbol padding start stop (p.parser.isVisible symbol)

/-- The next token for a reading where nothing was skipped yet: from the scanner
or from the lexer. `inError` says that any token will do. -/
def tokenAt (p : Parse) (v state place : Nat) (inError : Bool) : Option Lexed :=
  let state := if inError then Automaton.errorState else state
  let scanned := Scanner.scan p.source p.parser.typed (p.parser.request state) place
  let useful := scanned.filter fun s =>
    place < s.stop || (!inError && p.stack.advancedSinceError v)
  match useful with
  | some s => some ⟨p.parser.externalSymbol (Parser.externalName s.token), s.start, s.stop⟩
  | none => p.parser.lexer.find p.source (p.parser.wanted state) place

/-- Skips characters until a token is found or the text ends. Answers where the
skipped text begins and ends. -/
def skipText (p : Parse) (v : Nat) : Nat → Nat → Nat → Nat → Nat × Nat
  | 0, _, start, stop => (start, stop)
  | fuel + 1, place, start, stop =>
    let reached := Lexer.skipBlanks p.source place
    if reached = stop then
      if p.source.size ≤ reached then (start, stop)
      else
        let next := p.source.next reached
        match p.tokenAt v Automaton.errorState next true with
        | some _ => (start, next)
        | none => skipText p v fuel next start next
    else
      match p.tokenAt v Automaton.errorState reached true with
      | some _ => (start, reached)
      | none => skipText p v fuel reached start reached

/-- A keyword that is expected in the state is that keyword and no name. -/
def asKeyword (p : Parse) (state : Nat) (found : Lexed) (tree : Subtree) : Subtree × Parse :=
  if found.symbol ≠ Language.word then (tree, p)
  else
    let tree := tree.mapInfo fun i => { i with fromWord := true }
    match p.parser.lexer.keywords[p.source.slice found.start found.stop]? with
    | none => (tree, p)
    | some keyword =>
      let (expected, p) := p.hasActions state keyword
      if expected then
        (tree.mapInfo fun i =>
          { i with symbol := keyword, firstLeaf := keyword
                   visible := p.parser.isVisible keyword }, p)
      else (tree, p)

/-- The next token of a reading. Text that fits nowhere becomes one error node. -/
def nextToken (p : Parse) (v state : Nat) : Subtree × Parse :=
  let place := p.stack.position v
  let inError := state = Automaton.errorState
  let first := p.tokenAt v state place inError
  let found := match first with
    | some t => some t
    | none =>
      if inError || !p.parser.recovers then none else p.tokenAt v state place true
  match found with
  | some t => p.asKeyword state t (p.tokenTree t.symbol place t.start t.stop)
  | none =>
    if !p.parser.recovers then (.leaf errorSymbol place place place true, p)
    else
      let start := Lexer.skipBlanks p.source place
      let (start, stop) := p.skipText v (p.source.size - place + 1) place start start
      (.leaf errorSymbol place start stop true, p)

/-- A reduced node. -/
def reducedTree (p : Parse) (symbol : Nat) (production : Option Nat) (place : Nat)
    (children : List Subtree) : Subtree :=
  let steps := (production.map p.parser.stepsOf).getD []
  .branch p.source symbol (p.parser.isVisible symbol) steps production place children

end Parse

end CallAtlas
