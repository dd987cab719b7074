import CallAtlas.Lexical.Pattern
import Std.Data.HashMap

/-!
# Recognizers

The deterministic automaton of a pattern. Its states are the distinct
derivatives of the pattern, found by following `Pattern.moves` from the start;
state 0 is the pattern itself. ASCII characters are looked up in a table.
-/

namespace CallAtlas

/-- One state of a recognizer. -/
structure RecognizerState where
  accepts : Bool
  moves : List (CharSet × Nat)
  /-- For each ASCII character the next state, or the number of states. -/
  ascii : Array Nat
  deriving Inhabited

/-- A deterministic automaton whose start is state 0. -/
structure Recognizer where
  states : Array RecognizerState
  deriving Inhabited

namespace Recognizer

/-- The state numbers given so far, and the patterns in the order of their numbers. -/
structure Numbering where
  numbers : Std.HashMap Pattern Nat
  patterns : Array Pattern

/-- The number of a pattern, a new one where it has none. -/
def Numbering.add (n : Numbering) (p : Pattern) : Nat × Numbering :=
  match n.numbers[p]? with
  | some k => (k, n)
  | none => (n.patterns.size, ⟨n.numbers.insert p n.patterns.size, n.patterns.push p⟩)

/-- The state of a pattern, numbering the patterns it leads to. -/
def stateOf (p : Pattern) (n : Numbering) : List (CharSet × Nat) × Numbering :=
  p.moves.foldl (fun (acc, n) (cs, q) => let (k, n) := n.add q; (acc ++ [(cs, k)], n)) ([], n)

/-- Visits numbered patterns in order until none is left. -/
def explore : Nat → Nat → Numbering → Array (Bool × List (CharSet × Nat)) →
    Array (Bool × List (CharSet × Nat))
  | 0, _, _, done => done
  | fuel + 1, i, n, done =>
    match n.patterns[i]? with
    | none => done
    | some p =>
      let (moves, n) := stateOf p n
      explore fuel (i + 1) n (done.push (p.nullable, moves))

/-- More states than any token of the grammars has. -/
def stateLimit : Nat := 4096

/-- The automaton of a pattern. -/
def ofPattern (p : Pattern) : Recognizer :=
  let raw := explore stateLimit 0 ⟨{ (p, 0) }, #[p]⟩ #[]
  let dead := raw.size
  ⟨raw.map fun (accepts, moves) =>
    { accepts, moves
      ascii := Array.ofFn fun (c : Fin 128) =>
        match moves.find? (·.1.containsCode c) with
        | some (_, k) => k
        | none => dead }⟩

/-- The state after a character, or `none` where no match can follow. -/
def step (r : Recognizer) (state : Nat) (c : Char) : Option Nat :=
  match r.states[state]? with
  | none => none
  | some s =>
    match s.ascii[c.toNat]? with
    | some k => if k < r.states.size then some k else none
    | none => (s.moves.find? (·.1.contains c)).map (·.2)

/-- Whether the text read so far matches. -/
def accepts (r : Recognizer) (state : Nat) : Bool :=
  match r.states[state]? with
  | some s => s.accepts
  | none => false

/-- The characters with which a match can begin. -/
def firstChars (r : Recognizer) : CharSet :=
  match r.states[0]? with
  | some s => .unions (s.moves.map (·.1))
  | none => .empty

end Recognizer

end CallAtlas
