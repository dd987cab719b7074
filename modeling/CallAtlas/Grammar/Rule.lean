import CallAtlas.Lexical.Pattern

/-!
# Grammar rules

The right-hand sides of a grammar. A rule is a form over leaves; in a grammar as
it is written a leaf is a token or the name of another rule, and once the grammar
has been numbered it is a symbol. Besides order, choice and repetition a rule
carries what the parser needs to choose between readings (`prec`, `dynamic`) and
what the tree shows (`field`, `alias`).
-/

namespace CallAtlas

/-- A kind of token. -/
structure Lexeme where
  name : String
  pattern : Pattern
  /-- The text itself, for a token that is one fixed text. -/
  fixed : Option String
  /-- Of two tokens that match, the higher precedence wins before the longer match. -/
  precedence : Int
  /-- An immediate token may not be preceded by blanks. -/
  immediate : Bool
  deriving DecidableEq, Hashable, Inhabited, Repr

namespace Lexeme

/-- A token that is one fixed text. -/
def literal (text : String) : Lexeme := ⟨text, .text text, some text, 0, false⟩

/-- A token that is a class of texts. -/
def ofPattern (name : String) (pattern : Pattern) : Lexeme := ⟨name, pattern, none, 0, false⟩

/-- The same token, refused after blanks. -/
def immediately (l : Lexeme) (precedence : Int) : Lexeme :=
  { l with immediate := true, precedence }

/-- What decides between tokens of one precedence that match the same text:
fixed texts come before classes, immediate tokens before others. -/
def specificity (l : Lexeme) : Nat :=
  (if l.fixed.isSome then 2 else 0) + (if l.immediate then 1 else 0)

end Lexeme

/-- The precedence of a reading: a number, or a name that the grammar ranks. -/
inductive Level where
  | number (n : Int)
  | named (name : String)
  deriving DecidableEq, Hashable, Inhabited, Repr

instance : Coe String Level := ⟨.named⟩

/-- Which operand of a repeated operator binds first. -/
inductive Side where
  | left
  | right
  deriving DecidableEq, Hashable, Inhabited, Repr

/-- A name under which the tree shows a symbol. -/
structure Alias where
  name : String
  named : Bool
  deriving DecidableEq, Hashable, Inhabited, Repr

/-- A right-hand side over leaves of type `α`. -/
inductive Rule (α : Type) where
  | blank
  | leaf (a : α)
  | next (first rest : Rule α)
  | either (left right : Rule α)
  | repeat1 (body : Rule α)
  | field (name : String) (body : Rule α)
  | shown (as : Alias) (body : Rule α)
  | prec (level : Level) (side : Option Side) (body : Rule α)
  | dynamic (weight : Int) (body : Rule α)
  deriving DecidableEq, Hashable, Inhabited, Repr

namespace Rule

variable {α β : Type}

/-- All rules of a list in order. -/
def seq : List (Rule α) → Rule α
  | [] => .blank
  | [r] => r
  | r :: rest => .next r (seq rest)

/-- The alternatives of a rule, in order. -/
def alternatives : Rule α → List (Rule α)
  | .either l r => l.alternatives ++ r.alternatives
  | r => [r]

/-- Alternatives joined again; `blank` where there is none. -/
def ofAlternatives : List (Rule α) → Rule α
  | [] => .blank
  | [r] => r
  | r :: rest => .either r (ofAlternatives rest)

/-- Any one rule of a list; one that is already there is not repeated. -/
def choice [DecidableEq α] (rules : List (Rule α)) : Rule α :=
  ofAlternatives (rules.flatMap alternatives).eraseDups

/-- The rule, or nothing. -/
def maybe [DecidableEq α] (r : Rule α) : Rule α := choice [r, .blank]

/-- The rule any number of times. -/
def repeat0 [DecidableEq α] (r : Rule α) : Rule α := maybe (.repeat1 r)

/-- One rule or more with separators between them. -/
def separated1 [DecidableEq α] (separator r : Rule α) : Rule α :=
  seq [r, repeat0 (seq [separator, r])]

/-- The tree shows the symbol under the name of a rule. -/
def as (name : String) (r : Rule α) : Rule α := .shown ⟨name, true⟩ r

/-- The tree shows the symbol as if it were a fixed text. -/
def asText (text : String) (r : Rule α) : Rule α := .shown ⟨text, false⟩ r

/-- A precedence without a side. -/
def ranked (level : Level) (r : Rule α) : Rule α := .prec level none r

/-- A precedence under which the left operand binds first. -/
def leftward (level : Level) (r : Rule α) : Rule α := .prec level (some .left) r

/-- A precedence under which the right operand binds first. -/
def rightward (level : Level) (r : Rule α) : Rule α := .prec level (some .right) r

/-- The level of a reading that names none. -/
def plain : Level := .number 0

/-- Applies a function to every leaf. -/
def map (f : α → β) : Rule α → Rule β
  | .blank => .blank
  | .leaf a => .leaf (f a)
  | .next p q => .next (p.map f) (q.map f)
  | .either p q => .either (p.map f) (q.map f)
  | .repeat1 r => .repeat1 (r.map f)
  | .field n r => .field n (r.map f)
  | .shown a r => .shown a (r.map f)
  | .prec l s r => .prec l s (r.map f)
  | .dynamic w r => .dynamic w (r.map f)

/-- The leaves in order. -/
def leaves : Rule α → List α
  | .blank => []
  | .leaf a => [a]
  | .next p q => p.leaves ++ q.leaves
  | .either p q => p.leaves ++ q.leaves
  | .repeat1 r => r.leaves
  | .field _ r => r.leaves
  | .shown _ r => r.leaves
  | .prec _ _ r => r.leaves
  | .dynamic _ r => r.leaves

end Rule

/-! ## Rules as they are written -/

/-- A leaf of a written rule. -/
inductive Leaf where
  | token (lexeme : Lexeme)
  | rule (name : String)
  deriving DecidableEq, Hashable, Inhabited, Repr

/-- A rule as it is written. -/
abbrev Body := Rule Leaf

instance : Coe String Body := ⟨fun name => .leaf (.rule name)⟩

namespace Body

/-- A fixed text. -/
def lit (text : String) : Body := .leaf (.token (.literal text))

/-- Any one of some fixed texts. -/
def anyOf (texts : List String) : Body := Rule.choice (texts.map lit)

/-- A token of its own. -/
def token (lexeme : Lexeme) : Body := .leaf (.token lexeme)

/-- One or more, separated by commas. -/
def commaSep1 (r : Body) : Body := Rule.separated1 (lit ",") r

/-- None or more, separated by commas. -/
def commaSep (r : Body) : Body := Rule.maybe (commaSep1 r)

end Body

/-- An external token: one that the scanner finds, where a pattern cannot say
what the token is. -/
inductive ExternalToken where
  /-- Known to the grammar only as an external token. -/
  | only (name : String)
  /-- A token of the grammar whose place the scanner asks about. -/
  | rule (name : String)
  /-- A fixed text whose place the scanner asks about. -/
  | text (text : String)
  deriving DecidableEq, Inhabited, Repr

/-- A member of a list that ranks readings, the strongest first. -/
inductive Rank where
  | level (name : String)
  | rule (name : String)
  deriving DecidableEq, Inhabited, Repr

/-- A grammar as it is written. The first rule is the start. -/
structure Grammar where
  rules : List (String × Body)
  externals : List ExternalToken
  /-- Tokens that may stand anywhere. -/
  extras : List String
  /-- Rules that only group others; the tree does not show them. -/
  supertypes : List String
  /-- Rules that are replaced by their alternatives wherever they occur. -/
  inlined : List String
  /-- Rankings of readings; the first list that ranks both of two readings decides. -/
  precedences : List (List Rank)
  /-- The token from which the keywords are set apart. -/
  word : String
  deriving Inhabited

namespace Grammar

/-- The rule of a name, `blank` where there is none. -/
def rule (g : Grammar) (name : String) : Body := (g.rules.lookup name).getD .blank

/-- The grammar's rules with some replaced in place and the others added at the end. -/
def override (base new : List (String × Body)) : List (String × Body) :=
  base.map (fun (name, body) => (name, (new.lookup name).getD body)) ++
    new.filter (fun (name, _) => (base.lookup name).isNone)

/-- Whether the tree shows the nodes of a rule. -/
def isHidden (g : Grammar) (name : String) : Bool :=
  name.startsWith "_" || g.supertypes.contains name

end Grammar

end CallAtlas
