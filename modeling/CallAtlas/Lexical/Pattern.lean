import CallAtlas.Lexical.CharSet

/-!
# Patterns of characters

Regular expressions over `CharSet`, and their derivatives: `p.derive c` matches
`w` where `p` matches `c w`. The constructors `cat`, `or` and `many` simplify as
they build, so that a pattern has few distinct derivatives and an automaton can
be read off them.
-/

namespace CallAtlas

/-- A regular expression. -/
inductive Pattern where
  /-- Matches nothing. -/
  | none
  /-- Matches the empty text. -/
  | done
  /-- Matches one character of the set. -/
  | one (set : CharSet)
  | seq (first second : Pattern)
  | alt (left right : Pattern)
  | star (body : Pattern)
  deriving DecidableEq, Hashable, Inhabited, Repr

namespace Pattern

/-! ## Building -/

/-- One pattern after the other. -/
def cat : Pattern → Pattern → Pattern
  | .none, _ => .none
  | _, .none => .none
  | .done, q => q
  | p, .done => p
  | .seq a b, q => .seq a (cat b q)
  | p, q => .seq p q

/-- The alternatives of a pattern, from left to right. -/
def alternatives : Pattern → List Pattern
  | .alt p q => p.alternatives ++ q.alternatives
  | .none => []
  | p => [p]

/-- Either pattern; an alternative that is already there is not repeated. -/
def or (p q : Pattern) : Pattern :=
  match (p.alternatives ++ q.alternatives).eraseDups.reverse with
  | [] => .none
  | last :: before => before.foldl (fun acc x => .alt x acc) last

/-- Any number of times. -/
def many : Pattern → Pattern
  | .none => .done
  | .done => .done
  | .star p => .star p
  | p => .star p

/-- At least once. -/
def many1 (p : Pattern) : Pattern := cat p (many p)

/-- Once or not at all. -/
def opt (p : Pattern) : Pattern := or p .done

/-- A list of patterns in order. -/
def chain (ps : List Pattern) : Pattern := ps.foldr cat .done

/-- Any one of a list of patterns. -/
def oneOf (ps : List Pattern) : Pattern := ps.foldr or .none

/-- The text itself. -/
def text (s : String) : Pattern := chain (s.toList.map fun c => .one (.single c))

/-- Exactly `n` times. -/
def times (p : Pattern) : Nat → Pattern
  | 0 => .done
  | n + 1 => cat p (times p n)

/-- At most `n` times. -/
def upTo (p : Pattern) : Nat → Pattern
  | 0 => .done
  | n + 1 => opt (cat p (upTo p n))

/-- From `lo` to `hi` times. -/
def between (p : Pattern) (lo hi : Nat) : Pattern := cat (times p lo) (upTo p (hi - lo))

/-! ## Derivatives -/

/-- Whether the empty text matches. -/
def nullable : Pattern → Bool
  | .none => false
  | .done => true
  | .one _ => false
  | .seq p q => p.nullable && q.nullable
  | .alt p q => p.nullable || q.nullable
  | .star _ => true

/-- What must follow once a character has been read. -/
def derive (code : Nat) : Pattern → Pattern
  | .none => .none
  | .done => .none
  | .one s => if s.containsCode code then .done else .none
  | .seq p q =>
    let here := cat (p.derive code) q
    if p.nullable then or here (q.derive code) else here
  | .alt p q => or (p.derive code) (q.derive code)
  | .star p => cat (p.derive code) (many p)

/-- The sets that the next character is tested against. -/
def heads : Pattern → List CharSet
  | .none => []
  | .done => []
  | .one s => [s]
  | .seq p q => if p.nullable then p.heads ++ q.heads else p.heads
  | .alt p q => p.heads ++ q.heads
  | .star p => p.heads

/-- Splits every class by a set into the part inside and the part outside. -/
def refine (classes : List CharSet) (s : CharSet) : List CharSet :=
  let kept := classes.foldl (fun acc c => acc ++ [c.inter s, c.diff s]) []
  let seen := classes.foldl CharSet.union .empty
  (kept ++ [s.diff seen]).filter (!·.isEmpty)

/-- Disjoint classes of characters: two of one class have the same derivative,
and every character outside all of them has the derivative `none`. -/
def classes (p : Pattern) : List CharSet := p.heads.eraseDups.foldl refine []

/-- The transitions out of a pattern. -/
def moves (p : Pattern) : List (CharSet × Pattern) :=
  p.classes.filterMap fun c =>
    match c.first? with
    | some code => match p.derive code with
      | .none => Option.none
      | q => some (c, q)
    | Option.none => Option.none

end Pattern

end CallAtlas
