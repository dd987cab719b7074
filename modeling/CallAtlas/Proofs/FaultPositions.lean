import CallAtlas.Proofs.FirstFault

/-!
# The position of a fault

What is said of a fault ends with its position, and line and column of the fault are read
out of what is said. What is said before it is written is a `Finding`: it has the position as
a point, and the text that is quoted apart from the rest.

The search for a position takes the first one. Neither the words of a diagnostic nor the
marks around a quotation can be a part of a position (`firstPosition_words`,
`firstPosition_mark`), so the first one stands in the quotation, if there is one there, and
else at the end (`Finding.firstPosition_text`). There a number is read back as it was written
(`readNumber_digits`).
-/

namespace CallAtlas

namespace Diagnostic

/-! ## Positions in texts -/

theorem isDigit_of_ascii {c : Char} (h : c.isDigit = true) : isDigit c = true := by
  rw [isDigit, h, Bool.true_or]

/-- Some digits, at least one. -/
def AreDigits (cs : List Char) : Prop := cs ≠ [] ∧ ∀ c ∈ cs, isDigit c = true

/-- A position with the digits of its numbers. -/
def spelled (line column : List Char) : List Char := '(' :: (line ++ ':' :: (column ++ [')']))

/-- Whether there is a position in a text. -/
def HoldsPosition (cs : List Char) : Prop :=
  ∃ before line column after, AreDigits line ∧ AreDigits column ∧
    cs = before ++ (spelled line column ++ after)

/-- Digits are taken up to the first character that is none. -/
theorem takeWhile_digits {ds : List Char} {stop : Char} (hds : ∀ c ∈ ds, isDigit c = true)
    (hstop : isDigit stop = false) (rest : List Char) :
    (ds ++ stop :: rest).takeWhile isDigit = ds ∧
      (ds ++ stop :: rest).dropWhile isDigit = stop :: rest := by
  rw [List.takeWhile_append_of_pos hds, List.dropWhile_append_of_pos hds,
    List.takeWhile_cons_of_neg (Bool.eq_false_iff.mp hstop),
    List.dropWhile_cons_of_neg (Bool.eq_false_iff.mp hstop), List.append_nil]
  exact ⟨rfl, rfl⟩

/-- A position is found where it begins. -/
theorem positionHere_spelled {line column : List Char} (hline : AreDigits line)
    (hcolumn : AreDigits column) (after : List Char) :
    positionHere (spelled line column ++ after) = some (line, column) := by
  have hsplit : spelled line column ++ after =
      '(' :: (line ++ ':' :: (column ++ ')' :: after)) := by
    simp [spelled]
  obtain ⟨htakeLine, hdropLine⟩ :=
    takeWhile_digits hline.2 (by decide : isDigit ':' = false) (column ++ ')' :: after)
  obtain ⟨htakeColumn, hdropColumn⟩ :=
    takeWhile_digits hcolumn.2 (by decide : isDigit ')' = false) after
  simp only [hsplit, positionHere, htakeLine, hdropLine, htakeColumn, hdropColumn]
  rw [List.isEmpty_eq_false_iff.mpr hline.1, List.isEmpty_eq_false_iff.mpr hcolumn.1]
  rfl

/-- What is found at the head of a text stands there. -/
theorem spelled_of_positionHere {cs line column : List Char}
    (h : positionHere cs = some (line, column)) :
    AreDigits line ∧ AreDigits column ∧ ∃ after, cs = spelled line column ++ after := by
  have hdigits : ∀ rest : List Char, ∀ c ∈ rest.takeWhile isDigit, isDigit c = true :=
    fun rest c hc => List.mem_takeWhile_imp hc
  unfold positionHere at h
  split at h
  · next rest =>
    dsimp only at h
    split at h
    · next tail hline =>
      split at h
      · next after hcolumn =>
        split at h
        · cases h
        · next hsome =>
          obtain ⟨rfl, rfl⟩ := Prod.mk.inj (Option.some.inj h)
          rw [Bool.not_eq_true, Bool.or_eq_false_iff, List.isEmpty_eq_false_iff,
            List.isEmpty_eq_false_iff] at hsome
          refine ⟨⟨hsome.1, hdigits rest⟩, ⟨hsome.2, hdigits tail⟩, after, ?_⟩
          have hrest := List.takeWhile_append_dropWhile (p := isDigit) (l := rest)
          have htail := List.takeWhile_append_dropWhile (p := isDigit) (l := tail)
          rw [hline] at hrest
          rw [hcolumn] at htail
          rw [spelled, List.cons_append, List.append_assoc, List.cons_append, List.append_assoc,
            List.singleton_append, htail, hrest]
      · cases h
    · cases h
  · cases h

/-! ## The first position -/

/-- A character that is in no position. -/
def isMark (c : Char) : Bool := !isDigit c && c != '(' && c != ':' && c != ')'

/-- A mark is in no position. -/
theorem not_mem_spelled {mark : Char} (hmark : isMark mark = true) {line column : List Char}
    (hline : AreDigits line) (hcolumn : AreDigits column) : mark ∉ spelled line column := by
  intro hmem
  simp only [isMark, Bool.and_eq_true, Bool.not_eq_true', bne_iff_ne] at hmark
  obtain ⟨⟨⟨hdigit, hopen⟩, hcolon⟩, hclose⟩ := hmark
  have hno : ∀ ds : List Char, AreDigits ds → mark ∉ ds := by
    intro ds hds hmem
    rw [hds.2 mark hmem] at hdigit
    cases hdigit
  rw [spelled] at hmem
  rcases List.mem_cons.mp hmem with h | hmem
  · exact hopen h
  · rcases List.mem_append.mp hmem with h | hmem
    · exact hno line hline h
    · rcases List.mem_cons.mp hmem with h | hmem
      · exact hcolon h
      · rcases List.mem_append.mp hmem with h | h
        · exact hno column hcolumn h
        · exact hclose (List.mem_singleton.mp h)

/-- What has no mark in it and begins a text with a mark ends before the mark. -/
theorem eq_append_of_not_mem {mark : Char} {part after cs rest : List Char}
    (h : cs ++ mark :: rest = part ++ after) (hmark : mark ∉ part) :
    ∃ between, cs = part ++ between := by
  rcases List.append_eq_append_iff.mp h with ⟨more, hpart, hrest⟩ | ⟨more, hcs, -⟩
  · cases more with
    | nil => exact ⟨[], by rw [hpart, List.append_nil, List.append_nil]⟩
    | cons c more =>
      obtain ⟨rfl, -⟩ := List.cons.inj hrest
      exact absurd (hpart ▸ List.mem_append_right _ (List.mem_cons_self ..)) hmark
  · exact ⟨more, hcs⟩

/-- A mark ends the search for a position that begins before it. -/
theorem positionHere_mark {mark : Char} (hmark : isMark mark = true) (cs rest : List Char) :
    positionHere (cs ++ mark :: rest) = positionHere cs := by
  cases hbefore : positionHere cs with
  | some found =>
    obtain ⟨hline, hcolumn, after, hcs⟩ := spelled_of_positionHere hbefore
    rw [hcs, List.append_assoc]
    exact positionHere_spelled hline hcolumn _
  | none =>
    cases hfound : positionHere (cs ++ mark :: rest) with
    | none => rfl
    | some found =>
      -- the position would end before the mark, and so be found without it
      obtain ⟨hline, hcolumn, after, hsplit⟩ := spelled_of_positionHere hfound
      obtain ⟨between, hcs⟩ := eq_append_of_not_mem hsplit (not_mem_spelled hmark hline hcolumn)
      rw [hcs, positionHere_spelled hline hcolumn] at hbefore
      cases hbefore

theorem positionHere_of_ne {c : Char} (h : c ≠ '(') (rest : List Char) :
    positionHere (c :: rest) = none := by
  unfold positionHere
  split
  · next heq => exact absurd (List.cons.inj heq).1 h
  · rfl

/-- The first position is at the head, or else the first one of the rest. -/
theorem firstPosition_cons (c : Char) (rest : List Char) :
    firstPosition (c :: rest) = (positionHere (c :: rest)).or (firstPosition rest) := by
  rw [firstPosition]
  cases positionHere (c :: rest) <;> rfl

/-- **No position reaches over a mark:** the first one stands before it or else behind it. -/
theorem firstPosition_mark {mark : Char} (hmark : isMark mark = true) (cs rest : List Char) :
    firstPosition (cs ++ mark :: rest) = (firstPosition cs).or (firstPosition rest) := by
  induction cs with
  | nil =>
    have hne : mark ≠ '(' := by
      rintro rfl
      revert hmark
      decide
    rw [List.nil_append, firstPosition_cons, positionHere_of_ne hne, Option.none_or]
    rfl
  | cons c cs ih =>
    rw [List.cons_append, firstPosition_cons, firstPosition_cons, ih, ← List.cons_append,
      positionHere_mark hmark, Option.or_assoc]

/-- No position begins in words without a parenthesis. -/
theorem firstPosition_words {words : List Char} (h : '(' ∉ words) (rest : List Char) :
    firstPosition (words ++ rest) = firstPosition rest := by
  induction words with
  | nil => rfl
  | cons c words ih =>
    have hne : c ≠ '(' := fun heq => h (heq ▸ List.mem_cons_self ..)
    rw [List.cons_append, firstPosition_cons, positionHere_of_ne hne, Option.none_or,
      ih fun hmem => h (List.mem_cons_of_mem _ hmem)]

/-- A text holds a position if one is at its head or in the rest of it. -/
theorem holdsPosition_cons (c : Char) (rest : List Char) :
    HoldsPosition (c :: rest) ↔
      (positionHere (c :: rest)).isSome = true ∨ HoldsPosition rest := by
  constructor
  · rintro ⟨before, line, column, after, hline, hcolumn, hsplit⟩
    cases before with
    | nil =>
      rw [hsplit, List.nil_append, positionHere_spelled hline hcolumn]
      exact .inl rfl
    | cons b before =>
      exact .inr ⟨before, line, column, after, hline, hcolumn, (List.cons.inj hsplit).2⟩
  · rintro (hhere | ⟨before, line, column, after, hline, hcolumn, hsplit⟩)
    · obtain ⟨⟨line, column⟩, hfound⟩ := Option.isSome_iff_exists.mp hhere
      obtain ⟨hline, hcolumn, after, hsplit⟩ := spelled_of_positionHere hfound
      exact ⟨[], line, column, after, hline, hcolumn, hsplit⟩
    · exact ⟨c :: before, line, column, after, hline, hcolumn, congrArg (c :: ·) hsplit⟩

/-- The search finds a position just if there is one. -/
theorem firstPosition_isSome_iff (cs : List Char) :
    (firstPosition cs).isSome = true ↔ HoldsPosition cs := by
  induction cs with
  | nil =>
    refine ⟨nofun, ?_⟩
    rintro ⟨before, line, column, after, -, -, hsplit⟩
    rw [spelled, List.cons_append] at hsplit
    exact absurd hsplit.symm (List.append_ne_nil_of_right_ne_nil _ (List.cons_ne_nil _ _))
  | cons c rest ih =>
    rw [firstPosition_cons, Option.isSome_or, Bool.or_eq_true, ih, holdsPosition_cons]

/-! ## Numbers -/

/-- A number is read back from its digits, unless it is too large. -/
theorem readNumber_digits {n : Nat} (h : n ≤ maxNumber) :
    readNumber (toString n).toList = some n := by
  have hdigits : ∀ c ∈ Nat.toDigits 10 n, c.isDigit = true :=
    fun c hc => Nat.isDigit_of_mem_toDigits (by decide) (by decide) hc
  have hvalue : (Nat.toDigits 10 n).foldl (fun n c => n * 10 + (c.toNat - '0'.toNat)) 0 = n := by
    have h := Nat.ofDigitChars_toDigits (b := 10) (n := n) (by decide) (by decide)
    rw [Nat.ofDigitChars] at h
    simpa only [Nat.mul_comm 10] using h
  rw [Nat.toString_eq_repr, Nat.toList_repr, readNumber, if_pos (List.all_eq_true.mpr hdigits),
    hvalue]
  exact if_pos h

theorem areDigits_toString (n : Nat) : AreDigits (toString n).toList := by
  rw [Nat.toString_eq_repr, Nat.toList_repr]
  refine ⟨Nat.toDigits_ne_nil, fun c hc => isDigit_of_ascii ?_⟩
  exact Nat.isDigit_of_mem_toDigits (by decide) (by decide) hc

end Diagnostic

/-! ## Findings -/

/-- What is said of a tree, before it is written. -/
inductive Finding where
  /-- A token that should have come. -/
  | missing (kind : String) (point : Point)
  /-- The input ends too early. -/
  | ended (point : Point)
  /-- A token that fits nowhere. -/
  | unexpected (token : String) (point : Point)
  deriving DecidableEq, Repr

namespace Finding

open Diagnostic SyntaxTree

/-- The place of the fault. -/
def point : Finding → Point
  | missing _ p => p
  | ended p => p
  | unexpected _ p => p

/-- What is quoted from the source or the grammar. -/
def quoted : Finding → String
  | missing kind _ => kind
  | ended _ => ""
  | unexpected token _ => token

/-- The diagnostic. -/
def text : Finding → String
  | missing kind p => s!"Missing `{kind}` {pointPosition p}"
  | ended p => s!"Unexpected end of input {pointPosition p}"
  | unexpected token p => s!"Unexpected token `{token}` {pointPosition p}"

/-- The end of the input. -/
def atEnd (source : SourceText) : Finding := .ended (source.point (contentSize source))

/-- What is found out about an error. -/
def ofError (source : SourceText) (error : SyntaxTree) : Finding :=
  if contentSize source ≤ error.info.stop then atEnd source
  else
    let leaf := error.innermostError.firstLeaf
    let token := String.ofList ((leaf.text source).toList.take maxTokenChars)
    if token.isEmpty then atEnd source else .unexpected token leaf.info.startPoint

/-- What is found out about a missing token. -/
def ofMissing (t : SyntaxTree) : Finding := .missing t.kind t.info.startPoint

/-- What is found out about a tree. -/
def ofTree (root : SyntaxTree) (source : SourceText) : Option Finding :=
  match root.findFaulty (·.info.isError), root.findFaulty (·.info.isMissing) with
  | some error, some token =>
    if token.info.start < error.info.start then some (ofMissing token)
    else some (ofError source error)
  | none, some token => some (ofMissing token)
  | some error, none => some (ofError source error)
  | none, none => none

/-- A finding reads as the diagnostic that is made of the same error. -/
theorem text_ofError (source : SourceText) (error : SyntaxTree) :
    (ofError source error).text = Diagnostic.unexpected source error := by
  rw [ofError, Diagnostic.unexpected]
  split
  · rfl
  · dsimp only
    split <;> rfl

/-- What is said is what has been found out. -/
theorem ofTree_eq_map_text (root : SyntaxTree) (source : SourceText) :
    Diagnostic.ofTree root source = (ofTree root source).map text := by
  rw [Diagnostic.ofTree, ofTree]
  cases root.findFaulty (·.info.isError) with
  | none => cases root.findFaulty (·.info.isMissing) <;> rfl
  | some error =>
    cases root.findFaulty (·.info.isMissing) with
    | none => exact congrArg some (text_ofError source error).symm
    | some token =>
      dsimp only
      split
      · rfl
      · exact congrArg some (text_ofError source error).symm

/-- The position of a finding as it is written. -/
def written (f : Finding) : List Char × List Char :=
  ((toString (f.point.row + 1)).toList, (toString (f.point.column + 1)).toList)

theorem pointPosition_toList (p : Point) : (pointPosition p).toList =
    spelled (toString (p.row + 1)).toList (toString (p.column + 1)).toList := by
  rw [pointPosition, position, String.toList_append, String.toList_append, String.toList_append,
    String.toList_append, spelled]
  simp only [List.append_assoc]
  rfl

/-- The position at the end is found with the digits that were written. -/
theorem firstPosition_point (f : Finding) :
    firstPosition (pointPosition f.point).toList = some f.written := by
  have hhere := positionHere_spelled (areDigits_toString (f.point.row + 1))
    (areDigits_toString (f.point.column + 1)) []
  rw [List.append_nil] at hhere
  rw [pointPosition_toList, spelled, firstPosition_cons, ← spelled, hhere]
  rfl

/-- A quotation stands between words and the position. -/
theorem firstPosition_quotation (words : String) (hwords : '(' ∉ words.toList)
    (quoted : String) (p : Point) :
    firstPosition (words ++ quoted ++ "` " ++ pointPosition p).toList =
      (firstPosition quoted.toList).or (firstPosition (pointPosition p).toList) := by
  have hend : ("` " : String).toList = ['`', ' '] := rfl
  rw [String.toList_append, String.toList_append, String.toList_append, hend, List.append_assoc,
    List.append_assoc, firstPosition_words hwords]
  show firstPosition (quoted.toList ++ '`' :: (' ' :: (pointPosition p).toList)) = _
  rw [firstPosition_mark (by decide)]
  have hblank : '(' ∉ [' '] := by decide
  exact congrArg _ (firstPosition_words hblank (pointPosition p).toList)

/-- **The first position in a diagnostic** is the first one in what is quoted, or there is
none there and it is the one at the end. -/
theorem firstPosition_text (f : Finding) : firstPosition f.text.toList =
    (firstPosition f.quoted.toList).or (some f.written) := by
  rw [← firstPosition_point]
  cases f with
  | missing kind p =>
    exact firstPosition_quotation "Missing `" (by simp) kind p
  | unexpected token p =>
    exact firstPosition_quotation "Unexpected token `" (by simp) token p
  | ended p =>
    have hnothing : firstPosition (ended p).quoted.toList = none := rfl
    rw [hnothing, Option.none_or]
    show firstPosition ("Unexpected end of input " ++ pointPosition p).toList = _
    rw [String.toList_append, firstPosition_words (by simp)]
    rfl

/-- Every diagnostic ends with its position. -/
theorem text_ends (f : Finding) : ∃ words, f.text = words ++ pointPosition f.point := by
  cases f with
  | missing kind p => exact ⟨_, rfl⟩
  | ended p => exact ⟨_, rfl⟩
  | unexpected token p => exact ⟨_, rfl⟩

/-- Of a tree with a fault something is found out. -/
theorem ofTree_isSome {t : SyntaxTree} (source : SourceText) (hflags : t.flagsParents = true)
    (hfault : t.holdsFault = true) : (ofTree t source).isSome = true := by
  obtain ⟨diagnostic, hsome⟩ := Diagnostic.ofTree_isSome source hflags hfault
  rw [ofTree_eq_map_text] at hsome
  obtain ⟨finding, hfinding, -⟩ := Option.map_eq_some_iff.mp hsome
  rw [hfinding]
  rfl

end Finding

/-! ## The fault of a refused text -/

namespace Diagnostic

/-- The numbers of a position, unless one of them is too large or has digits of another
script. -/
def readNumbers (p : List Char × List Char) : Option (Nat × Nat) := do
  return (← readNumber p.1, ← readNumber p.2)

theorem readPosition_eq (diagnostic : String) :
    readPosition diagnostic = (firstPosition diagnostic.toList).bind readNumbers := rfl

/-- What is quoted does not mislead: the first position in it, if there is one, reads as the
position of the fault. -/
def NotMisled (f : Finding) : Prop :=
  HoldsPosition f.quoted.toList →
    (firstPosition f.quoted.toList).bind readNumbers = some (f.point.row + 1, f.point.column + 1)

/-- The position at the end is read if nothing misleads before it. -/
theorem readPosition_text_iff {f : Finding} (hrow : f.point.row < maxNumber)
    (hcolumn : f.point.column < maxNumber) :
    readPosition f.text = some (f.point.row + 1, f.point.column + 1) ↔ NotMisled f := by
  rw [readPosition_eq, Finding.firstPosition_text, NotMisled, ← firstPosition_isSome_iff]
  cases hquoted : firstPosition f.quoted.toList with
  | some found => exact ⟨fun h _ => h, fun h => h rfl⟩
  | none =>
    have hwritten : readNumbers f.written = some (f.point.row + 1, f.point.column + 1) := by
      rw [readNumbers, Finding.written, readNumber_digits hrow, readNumber_digits hcolumn]
      rfl
    exact ⟨fun _ h => absurd h Bool.false_ne_true, fun _ => hwritten⟩

/-- What is said stands at the end of the message. -/
theorem toFault_message (diagnostic : String) :
    ∃ words, (toFault diagnostic).message = words ++ diagnostic := by
  rw [toFault]
  dsimp only
  split
  · exact ⟨_, rfl⟩
  · exact ⟨_, rfl⟩

theorem toFault_at_iff (diagnostic : String) (line column : Nat) :
    ((toFault diagnostic).line = some line ∧ (toFault diagnostic).column = some column) ↔
      readPosition diagnostic = some (line, column) := by
  show ((readPosition diagnostic).map (·.1) = some line ∧
    (readPosition diagnostic).map (·.2) = some column) ↔ _
  cases readPosition diagnostic with
  | none => exact ⟨fun h => (nomatch h.1), fun h => (nomatch h)⟩
  | some found =>
    obtain ⟨l, c⟩ := found
    simp

end Diagnostic

namespace CleanParse

open Diagnostic

variable {σ : Type} {parse : Dialect → SourceText → StateM σ SyntaxTree} {limit : Nat}
  {source : SourceText} {s : σ}

/-- A text of the right size that is not all white space is not refused. -/
theorem refusal?_eq_none {text : String} (hwhite : text.toList.all Blank.isBlank = false)
    (hsize : text.utf8ByteSize ≤ limit) : refusal? limit text = none := by
  rw [refusal?, Blank.isEmpty, String.all_bool_eq, hwhite, if_neg Bool.false_ne_true,
    if_neg (Nat.not_lt.mpr hsize)]

/-- A text that no dialect fits has the fault of the last tree. -/
theorem ofSource_of_rejected (hasked : refusal? limit source.text = none)
    (hrejected : ∀ d : Dialect, (d.treeOf parse source s).info.hasError = true) :
    ((ofSource parse limit source).run s).1 =
      .error (faultOf source (Dialect.javascript.treeOf parse source s)) := by
  have hnone : Dialect.all.find? (fun d => !(d.treeOf parse source s).info.hasError) = none :=
    List.find?_eq_none.mpr fun d _ => by rw [hrejected d]; decide
  rw [ofSource, hasked]
  show (firstOf parse source .tsx [.typescript, .javascript] s).1 = _
  rw [firstOf_eq, hnone]

/-- **The position of a fault.** A text that no dialect fits has a fault, whose message ends
with the position of what is found out about the last tree, and something is if the tree holds
a fault and its flags are right. Line and column of the fault are those of that position just
if the text that is quoted before it does not mislead. -/
theorem ofSource_position (parse : Dialect → SourceText → StateM σ SyntaxTree) (limit : Nat)
    (source : SourceText) (s : σ) (hasked : refusal? limit source.text = none)
    (hrejected : ∀ d : Dialect, (d.treeOf parse source s).info.hasError = true) :
    ∃ fault, ((ofSource parse limit source).run s).1 = .error fault ∧
      ((Dialect.javascript.treeOf parse source s).flagsParents = true →
        (Dialect.javascript.treeOf parse source s).holdsFault = true →
        (Finding.ofTree (Dialect.javascript.treeOf parse source s) source).isSome = true) ∧
      ∀ finding, Finding.ofTree (Dialect.javascript.treeOf parse source s) source = some finding →
        (∃ words, fault.message = words ++ pointPosition finding.point) ∧
        (finding.point.row < maxNumber → finding.point.column < maxNumber →
          ((fault.line = some (finding.point.row + 1) ∧
              fault.column = some (finding.point.column + 1)) ↔ NotMisled finding)) := by
  refine ⟨_, ofSource_of_rejected hasked hrejected, ?_, fun finding hfinding => ?_⟩
  · exact Finding.ofTree_isSome source
  · have hfault : faultOf source (Dialect.javascript.treeOf parse source s) =
        toFault finding.text := by
      rw [faultOf, Finding.ofTree_eq_map_text, hfinding]
      rfl
    rw [hfault]
    refine ⟨?_, fun hrow hcolumn => ?_⟩
    · obtain ⟨front, hmessage⟩ := toFault_message finding.text
      obtain ⟨words, htext⟩ := finding.text_ends
      exact ⟨front ++ words, by rw [hmessage, htext, String.append_assoc]⟩
    · rw [toFault_at_iff]
      exact readPosition_text_iff hrow hcolumn

/-- Parsers that all give one tree. -/
def alike (t : SyntaxTree) (_ : Dialect) (_ : SourceText) : StateM Unit SyntaxTree := return t

open SyntaxTree

/-- The tree of `a b;`, where the first name fits nowhere. -/
def strayName : SyntaxTree :=
  flagged <| .onLine "program" none 0 4 [
    errorOnLine 0 1 [
      .onLine "identifier" none 0 1 []],
    .onLine "expression_statement" none 2 4 [
      .onLine "identifier" none 2 3 [],
      .fixed ";" 3 4]]

theorem ofSource_position_strayName :
    let source := SourceText.ofString "a b;"
    refusal? 4 source.text = none ∧
      (∀ d : Dialect, (d.treeOf (alike strayName) source ()).info.hasError = true) ∧
      ∃ fault, ((ofSource (alike strayName) 4 source).run ()).1 = .error fault ∧
        fault.line = some 1 ∧ fault.column = some 1 := by
  intro source
  have hasked : refusal? 4 source.text = none :=
    refusal?_eq_none (by decide) (by decide)
  have hrejected : ∀ d : Dialect,
      (d.treeOf (alike strayName) source ()).info.hasError = true := by
    intro d
    cases d <;> rfl
  obtain ⟨fault, hrun, -, hposition⟩ :=
    ofSource_position (alike strayName) 4 source () hasked hrejected
  obtain ⟨-, hat⟩ := hposition (.unexpected "a" ⟨0, 0⟩) (by decide +kernel)
  have hfree : NotMisled (.unexpected "a" ⟨0, 0⟩) := by
    intro hholds
    rw [← firstPosition_isSome_iff] at hholds
    revert hholds
    decide
  exact ⟨hasked, hrejected, fault, hrun, (hat (by decide) (by decide)).mpr hfree⟩

/-- The tree of `f(#!(9:9)` with a parenthesis on the next line. -/
def quotedPosition : SyntaxTree :=
  .node ⟨"program", true, none, false, false, true, 0, 11, ⟨0, 0⟩, ⟨1, 1⟩⟩ [
    .node ⟨"expression_statement", true, none, false, false, true, 0, 11, ⟨0, 0⟩, ⟨1, 1⟩⟩ [
      .node ⟨"call_expression", true, none, false, false, true, 0, 11, ⟨0, 0⟩, ⟨1, 1⟩⟩ [
        .onLine "identifier" (some "function") 0 1 [],
        .node ⟨"arguments", true, some "arguments", false, false, true, 1, 11, ⟨0, 1⟩, ⟨1, 1⟩⟩ [
          .fixed "(" 1 2,
          errorOnLine 2 9 [
            .onLine "hash_bang_line" none 2 9 []],
          .node ⟨")", false, none, false, false, false, 10, 11, ⟨1, 0⟩, ⟨1, 1⟩⟩ []]]]]

/-- Not always are line and column those of the position that is named: here they are read
out of the token. -/
theorem position_misread : ¬ ∀ (parse : Dialect → SourceText → StateM Unit SyntaxTree)
    (limit : Nat) (source : SourceText), refusal? limit source.text = none →
    (∀ d : Dialect, (d.treeOf parse source ()).info.hasError = true) →
    (Dialect.javascript.treeOf parse source ()).flagsFaults = true →
    ∃ finding fault,
      Finding.ofTree (Dialect.javascript.treeOf parse source ()) source = some finding ∧
      ((ofSource parse limit source).run ()).1 = .error fault ∧
      fault.line = some (finding.point.row + 1) ∧
      fault.column = some (finding.point.column + 1) := by
  intro h
  have hasked : refusal? 11 (SourceText.ofString "f(#!(9:9)\n)").text = none :=
    refusal?_eq_none (by decide) (by decide)
  have hrejected : ∀ d : Dialect, (d.treeOf (alike quotedPosition)
      (.ofString "f(#!(9:9)\n)") ()).info.hasError = true := by
    intro d
    cases d <;> rfl
  obtain ⟨finding, fault, hfinding, hfault, hline, -⟩ :=
    h (alike quotedPosition) 11 (.ofString "f(#!(9:9)\n)") hasked hrejected (by decide)
  rw [ofSource_of_rejected hasked hrejected] at hfault
  have hfound : Finding.ofTree quotedPosition (.ofString "f(#!(9:9)\n)") =
      some (.unexpected "#!(9:9)" ⟨0, 2⟩) := by decide +kernel
  have hnine : (faultOf (.ofString "f(#!(9:9)\n)") quotedPosition).line = some 9 := by
    decide +kernel
  have hone : fault.line = some 1 := by
    rw [hline, Option.some.inj (hfinding.symm.trans hfound)]
    rfl
  rw [← Except.error.inj hfault] at hone
  exact absurd (hnine.symm.trans hone) (by decide)

end CleanParse

end CallAtlas
