import CallAtlas.Grammar.Language
import CallAtlas.Automaton.TokenSet
import CallAtlas.Lexical.Recognizer
import CallAtlas.Source.Text

/-!
# The lexer

Finds the token at a place, among the tokens that a parser state can use. Blanks
before the token are skipped, except before an immediate token. Of several that
match, the higher precedence wins, then the longer match, then the more specific
token. Keywords are not looked for: a name is found first and is then looked up
among them.
-/

namespace CallAtlas

/-- A token found in a text. -/
structure Lexed where
  symbol : Nat
  start : Nat
  stop : Nat
  deriving Inhabited, Repr

/-- The recognizers of a language's tokens. -/
structure Lexer where
  /-- By symbol; the end of the text has none. -/
  recognizers : Array Recognizer
  lexemes : Array Lexeme
  /-- The tokens that a name may turn out to be. -/
  keywords : Std.HashMap String Nat
  keywordSet : TokenSet
  immediate : TokenSet
  /-- For each ASCII character the tokens that can begin with it. -/
  byFirst : Array TokenSet
  /-- The tokens that can begin outside ASCII. -/
  beyondAscii : TokenSet
  deriving Inhabited

namespace Lexer

/-- Whether a recognizer matches a whole text. -/
def matchesAll (r : Recognizer) (text : String) : Bool :=
  match text.foldl (fun state c => state.bind (r.step · c)) (some 0) with
  | some state => r.accepts state
  | none => false

/-- The lexer of a language. -/
def ofLanguage (l : Language) : Lexer :=
  let lexemes := #[default] ++ l.tokens
  let recognizers := lexemes.map fun x => Recognizer.ofPattern x.pattern
  let word := recognizers.getD Language.word default
  let numbered := lexemes.toList.zipIdx.drop 1
  let keywords := numbered.filterMap fun (x, k) => match x.fixed with
    | some text => if matchesAll word text then some (text, k) else none
    | none => none
  let firsts := recognizers.map Recognizer.firstChars
  let keywordSet := TokenSet.ofList (keywords.map (·.2))
  let startingWith := fun code =>
    TokenSet.ofList (numbered.filterMap fun (_, k) =>
      if (firsts.getD k .empty).containsCode code then some k else none)
  { recognizers, lexemes
    keywords := .ofList keywords
    keywordSet
    immediate := .ofList (numbered.filterMap fun (x, k) => if x.immediate then some k else none)
    byFirst := Array.ofFn fun (c : Fin 128) => startingWith c.val
    beyondAscii := .ofList (numbered.filterMap fun (_, k) =>
      if (firsts.getD k .empty).reachesBeyondAscii then some k else none) }

/-- The end of the longest match from a state on; `best` is the end of the
longest so far. -/
def longest (r : Recognizer) (t : SourceText) : Nat → Nat → Nat → Option Nat → Option Nat
  | 0, _, _, best => best
  | fuel + 1, state, offset, best =>
    if offset < t.size then
      let c := t.peek offset
      match r.step state c with
      | none => best
      | some state =>
        let offset := offset + c.utf8Size
        longest r t fuel state offset (if r.accepts state then some offset else best)
    else best

/-- The end of a token's longest match at a place. -/
def matchAt (l : Lexer) (t : SourceText) (symbol offset : Nat) : Option Nat :=
  longest (l.recognizers.getD symbol default) t (t.size - offset + 1) 0 offset none

/-- Whether the first of two tokens is to be preferred. -/
def preferred (l : Lexer) (a b : Lexed) : Bool :=
  let x := l.lexemes.getD a.symbol default
  let y := l.lexemes.getD b.symbol default
  if x.precedence ≠ y.precedence then y.precedence < x.precedence
  else if a.stop ≠ b.stop then b.stop < a.stop
  else if x.specificity ≠ y.specificity then y.specificity < x.specificity
  else a.symbol < b.symbol

/-- The tokens that can begin with the character at a place. -/
def startingAt (l : Lexer) (t : SourceText) (offset : Nat) : TokenSet :=
  if offset < t.size then
    match l.byFirst[(t.peek offset).toNat]? with
    | some s => s
    | none => l.beyondAscii
  else .empty

/-- The place after blanks. -/
def skipBlanks (t : SourceText) (offset : Nat) : Nat :=
  t.skipWhile CharSet.separator.contains offset

/-- The token at a place among those wanted. -/
def find (l : Lexer) (t : SourceText) (wanted : TokenSet) (offset : Nat) : Option Lexed :=
  let start := skipBlanks t offset
  let spaced := ((l.startingAt t start).inter wanted).diff l.immediate
  let close := ((l.startingAt t offset).inter wanted).inter l.immediate
  let consider := fun (best : Option Lexed) symbol place =>
    match l.matchAt t symbol place with
    | none => best
    | some stop =>
      let found : Lexed := ⟨symbol, place, stop⟩
      match best with
      | none => some found
      | some b => if l.preferred found b then some found else best
  let best := (spaced.diff l.keywordSet).toList.foldl (fun best s => consider best s start) none
  let best := close.toList.foldl (fun best s => consider best s offset) best
  match best with
  | some found => some found
  | none =>
    if wanted.contains Language.endOfText && t.size ≤ start then
      some ⟨Language.endOfText, start, start⟩
    else none

end Lexer

end CallAtlas
