import CallAtlas.Grammar.Rule
import Std.Data.HashSet

/-!
# Productions

A rule over numbered symbols becomes a list of productions: every choice is
taken apart, and each step of a production carries the precedence, side, field
and name that stood around it. A rule that is inlined is replaced, step by step,
by its own productions.
-/

namespace CallAtlas

/-- One symbol of a production and what stood around it in the rule. -/
structure Step where
  symbol : Nat
  level : Option Level
  side : Option Side
  shown : Option Alias
  field : Option String
  deriving DecidableEq, Hashable, Inhabited, Repr

/-- The right-hand side of a production. -/
structure Expansion where
  /-- Added to the weight of a reading that uses the production. -/
  weight : Int
  steps : List Step
  deriving DecidableEq, Hashable, Inhabited, Repr

/-- Of two weights the one that is farther from zero, the first if they are equally far. -/
def heavier (a b : Int) : Int := if a.natAbs < b.natAbs then b else a

namespace Expansion

/-- Keeps the first of equal members. -/
def distinct {α : Type} [BEq α] [Hashable α] (xs : List α) : List α :=
  (xs.foldl (fun (seen, acc) x =>
    if seen.contains x then (seen, acc) else (seen.insert x, x :: acc))
    ((∅ : Std.HashSet α), ([] : List α))).2.reverse

/-- What stands around a place in a rule. -/
structure Surroundings where
  level : Option Level
  side : Option Side
  shown : Option Alias
  field : Option String

/-- Changes the last step of a list. -/
def mapLast (f : Step → Step) : List Step → List Step
  | [] => []
  | [s] => [f s]
  | s :: rest => s :: mapLast f rest

/-- The expansions of a rule. `atEnd` says that nothing follows the rule in its
production. Where something follows, the precedence of the last step is that of
the surroundings, because the step's own reading is over when it is reached. -/
def ofRule (around : Surroundings) (atEnd : Bool) : Rule Nat → List Expansion
  | .blank => [⟨0, []⟩]
  | .leaf symbol => [⟨0, [⟨symbol, around.level, around.side, around.shown, around.field⟩]⟩]
  | .next p q =>
    let firsts := ofRule around false p
    let rests := ofRule around atEnd q
    firsts.flatMap fun a => rests.map fun b => ⟨heavier a.weight b.weight, a.steps ++ b.steps⟩
  | .either p q => ofRule around atEnd p ++ ofRule around atEnd q
  | .repeat1 r => ofRule around atEnd r
  | .field name r => ofRule { around with field := some name } atEnd r
  | .shown name r => ofRule { around with shown := some name } atEnd r
  | .prec level side r =>
    let inner := { around with level := some level, side := side.or around.side }
    (ofRule inner atEnd r).map fun e =>
      if atEnd then e
      else
        let outside (s : Step) : Step :=
          { s with level := around.level, side := if side.isSome then around.side else s.side }
        { e with steps := mapLast outside e.steps }
  | .dynamic weight r =>
    (ofRule around atEnd r).map fun e => { e with weight := heavier weight e.weight }

/-- The productions of a rule. -/
def ofBody (r : Rule Nat) : List Expansion :=
  distinct (ofRule ⟨none, none, none, none⟩ true r)

/-- The expansion of an inlined rule as it stands in the place of a step. -/
def placed (s : Step) (e : Expansion) : Expansion :=
  let named (x : Step) : Step := { x with shown := s.shown.or x.shown, field := s.field.or x.field }
  let ranked (x : Step) : Step := { x with level := x.level.or s.level, side := x.side.or s.side }
  { e with steps := mapLast ranked (e.steps.map named) }

/-- Replaces every inlined symbol. `inlined` gives the productions of a symbol
that is to be replaced; `depth` bounds how deep such symbols hold others. -/
def inline (inlined : Nat → Option (List Expansion)) : Nat → List Step → List Expansion
  | 0, steps => [⟨0, steps⟩]
  | depth + 1, steps =>
    steps.foldr (fun s rests =>
      let heads : List Expansion := match inlined s.symbol with
        | none => [⟨0, [s]⟩]
        | some es => es.flatMap fun e =>
          let e := placed s e
          (inline inlined depth e.steps).map fun x => { x with weight := heavier e.weight x.weight }
      heads.flatMap fun a => rests.map fun b => ⟨heavier a.weight b.weight, a.steps ++ b.steps⟩)
      [⟨0, []⟩]

/-- The expansion with every inlined symbol replaced. -/
def inlineAll (inlined : Nat → Option (List Expansion)) (depth : Nat) (e : Expansion) :
    List Expansion :=
  (inline inlined depth e.steps).map fun x => { x with weight := heavier e.weight x.weight }

end Expansion

end CallAtlas
