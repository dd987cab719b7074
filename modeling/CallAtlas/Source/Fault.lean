import CallAtlas.Number.Basic
import CallAtlas.Syntax.Cursor
import CallAtlas.Text.Blank

/-!
# Faults in a source

What can be reported of a text that is not analysed: it is empty or too long, or
no grammar fits it. A syntax fault is described by the first error or missing
token of a tree, with its position behind in parentheses.
-/

namespace CallAtlas

/-- The category of a fault. -/
inductive FaultKind where
  /-- An empty or oversized text. -/
  | validation
  /-- A text that fits no grammar. -/
  | syntactic
  /-- A finding about the meaning of a text. -/
  | analysis
  /-- A text that could not be fetched. -/
  | network
  deriving DecidableEq, Inhabited, Repr

namespace FaultKind

/-- The written name. -/
def name : FaultKind → String
  | .validation => "validation"
  | .syntactic => "syntax"
  | .analysis => "analysis"
  | .network => "network"

end FaultKind

/-- A reported fault. Lines and columns count from 1. -/
structure SourceFault where
  kind : FaultKind
  message : String
  line : Option Nat
  column : Option Nat
  deriving DecidableEq, Inhabited, Repr

namespace SourceFault

/-- The message with the position behind it. A column without a line is left out. -/
def display (f : SourceFault) : String :=
  match f.line, f.column with
  | some line, some column => s!"{f.message} at line {line}, column {column}"
  | some line, none => s!"{f.message} at line {line}"
  | none, _ => f.message

/-- A fault of the text as a whole. -/
def validation (message : String) : SourceFault := ⟨.validation, message, none, none⟩

end SourceFault

/-! ## Finding the fault in a tree -/

namespace Cursor

/-- Goes to the next place in preorder that is not below this one if this one is
without errors. -/
def advanceFaulty (c : Cursor) : Option Cursor :=
  if c.place.tree.info.hasError then c.advance else c.leave

/-- A search that passes over nodes without errors comes to an end too. -/
theorem ahead_advanceFaulty {c d : Cursor} (h : c.advanceFaulty = some d) :
    d.ahead < c.ahead := by
  unfold advanceFaulty at h
  split at h
  · exact ahead_advance h
  · have hle := ahead_leave c h
    have hpos := SyntaxTree.nodeCount_eq c.place.tree
    unfold ahead at hle ⊢
    omega

/-- The first place from a cursor on that satisfies a condition. Nodes without errors
are not entered. -/
def findFaulty (cond : Place → Bool) (c : Cursor) : Option Place :=
  if cond c.place then some c.place
  else match _h : c.advanceFaulty with
    | some d => findFaulty cond d
    | none => none
termination_by c.ahead
decreasing_by exact ahead_advanceFaulty _h

/-- What is found from a cursor on is no larger than what is ahead of it. -/
theorem nodeCount_findFaulty {cond : Place → Bool} {c : Cursor} {p : Place}
    (h : c.findFaulty cond = some p) : p.tree.nodeCount ≤ c.ahead := by
  fun_induction findFaulty cond c with
  | case1 c =>
    rw [← Option.some.inj h]
    exact Nat.le_add_right ..
  | case2 c _ d hd ih => exact Nat.le_trans (ih h) (Nat.le_of_lt (ahead_advanceFaulty hd))
  | case3 => cases h

end Cursor

/-- Whether a place is an error and not the root. -/
def Place.isInnerError (p : Place) : Bool := p.tree.info.isError && !p.above.isEmpty

namespace SyntaxTree

/-- The first place in preorder that satisfies a condition. Nodes without errors are
not entered. -/
def faultyPlace? (cond : Place → Bool) (t : SyntaxTree) : Option Place :=
  (Cursor.ofRoot t).findFaulty cond

/-- The first node in preorder that satisfies a condition. Nodes without errors are not
entered. -/
def findFaulty (cond : SyntaxTree → Bool) (t : SyntaxTree) : Option SyntaxTree :=
  (t.faultyPlace? fun p => cond p.tree).map Place.tree

/-- The first error node strictly inside a node. -/
def errorInside (t : SyntaxTree) : Option SyntaxTree :=
  (t.faultyPlace? Place.isInnerError).map Place.tree

/-- What is strictly inside a node has fewer nodes. -/
theorem nodeCount_errorInside {t inner : SyntaxTree} (h : t.errorInside = some inner) :
    inner.nodeCount < t.nodeCount := by
  obtain ⟨p, hp, rfl⟩ := Option.map_eq_some_iff.mp h
  rw [faultyPlace?, Cursor.findFaulty] at hp
  split at hp
  · next hroot => simp [Cursor.ofRoot, Place.root, Place.isInnerError] at hroot
  · split at hp
    · next d hd =>
      rw [← Cursor.ahead_ofRoot t]
      exact Nat.lt_of_le_of_lt (Cursor.nodeCount_findFaulty hp) (Cursor.ahead_advanceFaulty hd)
    · cases hp

/-- The error at the end of the way that goes on from an error to the first one inside
it. -/
def innermostError (t : SyntaxTree) : SyntaxTree :=
  match _h : t.errorInside with
  | some inner => innermostError inner
  | none => t
termination_by t.nodeCount
decreasing_by exact nodeCount_errorInside _h

/-- The first leaf. -/
def firstLeaf (t : SyntaxTree) : SyntaxTree :=
  match t with
  | node i [] => node i []
  | node _ (c :: _) => firstLeaf c

end SyntaxTree

/-! ## Describing it -/

namespace Diagnostic

/-- The text in parentheses that gives a position, counted from 1. -/
def position (line column : Nat) : String := s!"({line}:{column})"

/-- The position of a point. -/
def pointPosition (p : Point) : String := position (p.row + 1) (p.column + 1)

/-- The length in bytes without white space at the end. -/
def contentSize (source : SourceText) : Nat := (Blank.trimEnd source.text).utf8ByteSize

/-- An input that ends too early, at the place after the last character that is
no white space. -/
def unexpectedEnd (source : SourceText) : String :=
  s!"Unexpected end of input {pointPosition (source.point (contentSize source))}"

/-- A token that should have come. -/
def missing (t : SyntaxTree) : String :=
  s!"Missing `{t.kind}` {pointPosition t.info.startPoint}"

/-- At most twenty characters of a token are named. -/
def maxTokenChars : Nat := 20

/-- An error node: the end of the input if it reaches so far, else the first token
of its innermost error. -/
def unexpected (source : SourceText) (error : SyntaxTree) : String :=
  if contentSize source ≤ error.info.stop then unexpectedEnd source
  else
    let leaf := error.innermostError.firstLeaf
    let token := String.ofList ((leaf.text source).toList.take maxTokenChars)
    if token.isEmpty then unexpectedEnd source
    else s!"Unexpected token `{token}` {pointPosition leaf.info.startPoint}"

/-- The fault that a tree shows first. -/
def ofTree (root : SyntaxTree) (source : SourceText) : Option String :=
  match root.findFaulty (·.info.isError), root.findFaulty (·.info.isMissing) with
  | some error, some token =>
    if token.info.start < error.info.start then some (missing token)
    else some (unexpected source error)
  | none, some token => some (missing token)
  | some error, none => some (unexpected source error)
  | none, none => none

/-- What is said where a tree shows no fault. -/
def unknown : String := "Unable to parse source"

/-! ## Reading the position back -/

/-- The code points at which a run of ten decimal digits begins, outside ASCII. -/
def digitRuns : List Nat :=
  [0x660, 0x6F0, 0x7C0, 0x966, 0x9E6, 0xA66, 0xAE6, 0xB66, 0xBE6, 0xC66, 0xCE6, 0xD66, 0xDE6,
   0xE50, 0xED0, 0xF20, 0x1040, 0x1090, 0x17E0, 0x1810, 0x1946, 0x19D0, 0x1A80, 0x1A90, 0x1B50,
   0x1BB0, 0x1C40, 0x1C50, 0xA620, 0xA8D0, 0xA900, 0xA9D0, 0xA9F0, 0xAA50, 0xABF0, 0xFF10,
   0x104A0, 0x10D30, 0x10D40, 0x11066, 0x110F0, 0x11136, 0x111D0, 0x112F0, 0x11450, 0x114D0,
   0x11650, 0x116C0, 0x116D0, 0x116DA, 0x11730, 0x118E0, 0x11950, 0x11BF0, 0x11C50, 0x11D50,
   0x11DA0, 0x11F50, 0x16130, 0x16A60, 0x16AC0, 0x16B50, 0x16D70, 0x1CCF0, 0x1D7CE, 0x1D7D8,
   0x1D7E2, 0x1D7EC, 0x1D7F6, 0x1E140, 0x1E2F0, 0x1E4F0, 0x1E5F1, 0x1E950, 0x1FBF0]

/-- A decimal digit of any script. -/
def isDigit (c : Char) : Bool :=
  c.isDigit || digitRuns.any fun first => first ≤ c.toNat && c.toNat < first + 10

/-- A position at the head of a text: two runs of digits with a colon between
them, in parentheses. -/
def positionHere : List Char → Option (List Char × List Char)
  | '(' :: rest =>
    let line := rest.takeWhile isDigit
    match rest.dropWhile isDigit with
    | ':' :: rest =>
      let column := rest.takeWhile isDigit
      match rest.dropWhile isDigit with
      | ')' :: _ => if line.isEmpty || column.isEmpty then none else some (line, column)
      | _ => none
    | _ => none
  | _ => none

/-- The first position in a text. -/
def firstPosition : List Char → Option (List Char × List Char)
  | [] => none
  | c :: rest => match positionHere (c :: rest) with
    | some p => some p
    | none => firstPosition rest

/-- The largest number that a position can hold. -/
def maxNumber : Nat := Number.wordBound 64 - 1

/-- The number that ASCII digits write, unless it is too large. -/
def readNumber (digits : List Char) : Option Nat :=
  if digits.all Char.isDigit then
    let n := digits.foldl (fun n c => n * 10 + (c.toNat - '0'.toNat)) 0
    if n ≤ maxNumber then some n else none
  else none

/-- The line and column that a diagnostic names first. -/
def readPosition (diagnostic : String) : Option (Nat × Nat) := do
  let (line, column) ← firstPosition diagnostic.toList
  return (← readNumber line, ← readNumber column)

/-- Whether one list of characters begins with another. -/
def startsWith : List Char → List Char → Bool
  | _, [] => true
  | [], _ :: _ => false
  | c :: cs, d :: ds => c == d && startsWith cs ds

/-- Whether a text holds another. -/
def holds (part : List Char) : List Char → Bool
  | [] => part.isEmpty
  | c :: rest => startsWith (c :: rest) part || holds part rest

/-- The fault that a diagnostic reports. An unexpected tag is taken for markup. -/
def toFault (diagnostic : String) : SourceFault :=
  let message :=
    if holds "Unexpected token `<".toList diagnostic.toList then
      s!"Invalid or unsupported JSX syntax: {diagnostic}"
    else s!"Syntax error: {diagnostic}"
  let found := readPosition diagnostic
  ⟨.syntactic, message, found.map (·.1), found.map (·.2)⟩

end Diagnostic

end CallAtlas
