import CallAtlas.Proofs.Dialects
import CallAtlas.Proofs.Points

/-!
# The fault that is told

A tree is searched twice, for text that fits nowhere and for missing tokens, and of what the
two searches find the one that starts earlier is told. So what is told is the first fault in
preorder unless both start at the same byte (`ofTree_eq_ofFault_iff`), which they can, since a
missing token has no width.

Of an error the first token of its innermost error is told, which is the first leaf of the
first error in it that holds no error (`firstToken_eq`).
-/

namespace CallAtlas

namespace SyntaxTree

/-- The first leaf is the first node without children. -/
theorem find?_leaf (t : SyntaxTree) :
    t.nodes.find? (·.children.isEmpty) = some t.firstLeaf := by
  fun_induction firstLeaf t with
  | case1 i => rfl
  | case2 i c rest ih =>
    rw [nodes_eq, List.find?_cons_of_neg (by exact Bool.false_ne_true), nodesIn,
      List.find?_append, ih]
    rfl

end SyntaxTree

/-! ## What is said of a fault -/

namespace Diagnostic

open SyntaxTree

/-- The first token of the innermost error of an error. -/
def firstToken (error : SyntaxTree) : SyntaxTree :=
  let innermost := (error.nodes.find? isInnermost).getD error
  (innermost.nodes.find? (·.children.isEmpty)).getD innermost

/-- As much of the text of a token as is named. -/
def named (text : String) (token : SyntaxTree) : String :=
  String.ofList ((token.text (.ofString text)).toList.take maxTokenChars)

/-- The place behind the last character that is no white space. -/
def endOfInput (text : String) : Point :=
  let content := (Blank.trimEnd text).toList
  ⟨content.count '\n', String.utf8Len (SourceText.lastLine content)⟩

/-- Whether a node reaches the last character that is no white space. -/
def reachesEnd (text : String) (t : SyntaxTree) : Bool :=
  (Blank.trimEnd text).utf8ByteSize ≤ t.info.stop

/-- A token that fits nowhere. -/
def unexpectedToken (token : String) (p : Point) : String :=
  s!"Unexpected token `{token}` {pointPosition p}"

/-- What is to be said of a fault: of a missing token what is missing and where, of an error
that reaches the end of the input where the input ends, and of any other error its first
token. -/
def ofFault (text : String) (fault : SyntaxTree) : String :=
  if fault.info.isError then
    if reachesEnd text fault then
      s!"Unexpected end of input {pointPosition (endOfInput text)}"
    else unexpectedToken (named text (firstToken fault)) (firstToken fault).info.startPoint
  else s!"Missing `{fault.kind}` {pointPosition fault.info.startPoint}"

/-- Whether an error reaches the end of the input or has a first token with a text. -/
def isDescribed (text : String) (error : SyntaxTree) : Bool :=
  reachesEnd text error || !(named text (firstToken error)).isEmpty

/-- The end of the input is found where it is. -/
theorem unexpectedEnd_ofString (text : String) : unexpectedEnd (.ofString text) =
    s!"Unexpected end of input {pointPosition (endOfInput text)}" := by
  have hsplit : Blank.trimEnd text ++
      String.ofList (text.toList.reverse.takeWhile Blank.isBlank).reverse = text := by
    rw [Blank.trimEnd, Blank.dropEnd, ← String.ofList_append, ← List.reverse_append,
      List.takeWhile_append_dropWhile, List.reverse_reverse, String.ofList_toList]
  have hpoint : (SourceText.ofString text).point (contentSize (.ofString text)) =
      endOfInput text := by
    have h := SourceText.point_ofString (Blank.trimEnd text)
      (String.ofList (text.toList.reverse.takeWhile Blank.isBlank).reverse)
    rw [hsplit] at h
    exact h
  exact congrArg (fun p => s!"Unexpected end of input {pointPosition p}") hpoint

theorem firstToken_eq {e : SyntaxTree} (herror : e.info.isError = true)
    (hflags : e.flagsParents = true) :
    firstToken e = e.innermostError.firstLeaf := by
  rw [firstToken, find?_isInnermost herror hflags, Option.getD_some, find?_leaf,
    Option.getD_some]

theorem unexpected_eq {e : SyntaxTree} (text : String) (herror : e.info.isError = true)
    (hflags : e.flagsParents = true) :
    unexpected (.ofString text) e =
      if isDescribed text e then ofFault text e else unexpectedEnd (.ofString text) := by
  rw [unexpected, ← firstToken_eq herror hflags, ofFault, isDescribed, if_pos herror,
    ← unexpectedEnd_ofString]
  show (if contentSize (.ofString text) ≤ e.info.stop then unexpectedEnd (.ofString text)
    else if (named text (firstToken e)).isEmpty then unexpectedEnd (.ofString text)
    else unexpectedToken (named text (firstToken e)) (firstToken e).info.startPoint) = _
  by_cases hend : contentSize (.ofString text) ≤ e.info.stop
  · have hreaches : reachesEnd text e = true := decide_eq_true hend
    rw [if_pos hend, hreaches, Bool.true_or, if_pos rfl, if_pos rfl]
  · have hreaches : reachesEnd text e = false := decide_eq_false hend
    rw [if_neg hend, hreaches, Bool.false_or, if_neg Bool.false_ne_true]
    cases (named text (firstToken e)).isEmpty <;> rfl

theorem getElem?_of_opening {opening : String} {n : Nat} {c : Char}
    (h : opening.toList[n]? = some c) (rest : String) : (opening ++ rest).toList[n]? = some c := by
  obtain ⟨hlt, -⟩ := List.getElem?_eq_some_iff.mp h
  rw [String.toList_append, List.getElem?_append_left hlt, h]

/-- The three things that can be said differ in the first letter or in the twelfth. -/
theorem letters_missing (m : SyntaxTree) : (missing m).toList[0]? = some 'M' := by
  have h : "Missing `".toList[0]? = some 'M' := by simp
  exact getElem?_of_opening (getElem?_of_opening (getElem?_of_opening h _) _) _

theorem letters_unexpectedEnd (source : SourceText) :
    (unexpectedEnd source).toList[0]? = some 'U' ∧
      (unexpectedEnd source).toList[11]? = some 'e' := by
  have hfirst : "Unexpected end of input ".toList[0]? = some 'U' := by simp
  have hlater : "Unexpected end of input ".toList[11]? = some 'e' := by simp
  exact ⟨getElem?_of_opening hfirst _, getElem?_of_opening hlater _⟩

theorem letters_unexpectedToken (token : String) (p : Point) :
    (unexpectedToken token p).toList[0]? = some 'U' ∧
      (unexpectedToken token p).toList[11]? = some 't' := by
  have hfirst : "Unexpected token `".toList[0]? = some 'U' := by simp
  have hlater : "Unexpected token `".toList[11]? = some 't' := by simp
  exact ⟨getElem?_of_opening (getElem?_of_opening (getElem?_of_opening hfirst _) _) _,
    getElem?_of_opening (getElem?_of_opening (getElem?_of_opening hlater _) _) _⟩

/-- What is said of an error is never what is said of a missing token. -/
theorem unexpected_ne_missing (source : SourceText) (e m : SyntaxTree) :
    unexpected source e ≠ missing m := by
  have hfirst : (unexpected source e).toList[0]? = some 'U' := by
    rw [unexpected]
    split
    · exact (letters_unexpectedEnd source).1
    · show (ite _ _ _ : String).toList[0]? = some 'U'
      split
      · exact (letters_unexpectedEnd source).1
      · exact (letters_unexpectedToken _ _).1
  intro h
  rw [h, letters_missing] at hfirst
  cases hfirst

/-- Of an error is said what is to be said of it just if it reaches the end of the input or
its first token has a text. -/
theorem unexpected_eq_ofFault_iff {e : SyntaxTree} (text : String)
    (herror : e.info.isError = true)
    (hflags : e.flagsParents = true) :
    unexpected (.ofString text) e = ofFault text e ↔ isDescribed text e = true := by
  rw [unexpected_eq text herror hflags]
  cases hdescribed : isDescribed text e with
  | true => exact ⟨fun _ => rfl, fun _ => rfl⟩
  | false =>
    refine ⟨fun h => ?_, nofun⟩
    rw [isDescribed, Bool.or_eq_false_iff] at hdescribed
    have htoken : ofFault text e =
        unexpectedToken (named text (firstToken e)) (firstToken e).info.startPoint := by
      rw [ofFault, if_pos herror, hdescribed.1, if_neg Bool.false_ne_true]
    have hletter := (letters_unexpectedEnd (.ofString text)).2
    rw [if_neg Bool.false_ne_true, htoken] at h
    rw [h, (letters_unexpectedToken _ _).2] at hletter
    cases hletter

/-! ## Which fault is told -/

/-- Nothing with a property starts before the first node with it. -/
theorem start_le_of_find? {cond : SyntaxTree → Bool} {t first m : SyntaxTree}
    (horder : t.nodes.Pairwise fun a b => a.info.start ≤ b.info.start)
    (hfirst : t.nodes.find? cond = some first) (hm : m ∈ t.nodes) (hcond : cond m = true) :
    first.info.start ≤ m.info.start := by
  obtain ⟨-, before, after, hsplit, hbefore⟩ := List.find?_eq_some_iff_append.mp hfirst
  rw [hsplit] at horder hm
  rcases List.mem_append.mp hm with hm | hm
  · have hno := hbefore m hm
    rw [hcond] at hno
    cases hno
  · rcases List.mem_cons.mp hm with rfl | hm
    · exact Nat.le_refl _
    · exact List.rel_of_pairwise_cons (List.pairwise_append.mp horder).2.1 hm

/-- The first of many is the first of those among them that are like it. -/
theorem find?_of_find? {cond narrow : SyntaxTree → Bool} {ns : List SyntaxTree} {n : SyntaxTree}
    (hnarrow : ∀ m, narrow m = true → cond m = true) (h : ns.find? cond = some n)
    (hn : narrow n = true) : ns.find? narrow = some n := by
  obtain ⟨-, before, after, hsplit, hbefore⟩ := List.find?_eq_some_iff_append.mp h
  refine List.find?_eq_some_iff_append.mpr ⟨hn, before, after, hsplit, fun m hm => ?_⟩
  have hno := hbefore m hm
  rw [Bool.not_eq_true'] at hno ⊢
  exact Bool.eq_false_iff.mpr fun hyes => Bool.eq_false_iff.mp hno (hnarrow m hyes)

/-- What is said of an error and a missing token, each of which there may be. -/
def earlier (source : SourceText) : Option SyntaxTree → Option SyntaxTree → Option String
  | some error, some token =>
    if token.info.start < error.info.start then some (missing token)
    else some (unexpected source error)
  | none, some token => some (missing token)
  | some error, none => some (unexpected source error)
  | none, none => none

section Told

variable {t first : SyntaxTree} {source : SourceText}
  (hflags : t.flagsParents = true)
  (hfirst : t.nodes.find? isFault = some first)

include hflags

/-- With right flags, both searches are searches of all nodes. -/
theorem ofTree_eq : ofTree t source =
    earlier source (t.nodes.find? (·.info.isError)) (t.nodes.find? (·.info.isMissing)) := by
  rw [ofTree, findFaulty_eq_find? hflags (fun _ => isFault_of_isError),
    findFaulty_eq_find? hflags (fun _ => isFault_of_isMissing)]
  rfl

include hfirst

/-- If the first fault is an error, it is told: no missing token starts before it. -/
theorem ofTree_of_isError (horder : t.nodes.Pairwise fun a b => a.info.start ≤ b.info.start)
    (herror : first.info.isError = true) : ofTree t source = some (unexpected source first) := by
  rw [ofTree_eq hflags, find?_of_find? (fun _ => isFault_of_isError) hfirst herror]
  cases hmissing : t.nodes.find? (·.info.isMissing) with
  | none => rfl
  | some token =>
    have hlate : first.info.start ≤ token.info.start :=
      start_le_of_find? horder hfirst (List.mem_of_find?_eq_some hmissing)
        (isFault_of_isMissing (List.find?_eq_some_iff_append.mp hmissing).1)
    exact if_neg (Nat.not_lt.mpr hlate)

/-- If the first fault is a missing token, it or the first error is told. -/
theorem ofTree_of_isMissing (herror : first.info.isError = false) :
    ofTree t source = earlier source (t.nodes.find? (·.info.isError)) (some first) := by
  have hmissing : first.info.isMissing = true := by
    have hfault := (List.find?_eq_some_iff_append.mp hfirst).1
    rwa [isFault, herror, Bool.false_or] at hfault
  rw [ofTree_eq hflags, find?_of_find? (fun _ => isFault_of_isMissing) hfirst hmissing]

end Told

/-- **The first fault is told** just if no error starts with it, where it is a missing token,
and if its first token has a text or it reaches the end of the input, where it is an error. -/
theorem ofTree_eq_ofFault_iff {t : SyntaxTree} (text : String)
    (hflags : t.flagsParents = true) (hfault : t.holdsFault = true)
    (horder : t.nodes.Pairwise fun a b => a.info.start ≤ b.info.start) :
    ∃ first, t.nodes.find? isFault = some first ∧
      (ofTree t (.ofString text) = some (ofFault text first) ↔
        if first.info.isError then isDescribed text first = true
        else ∀ e ∈ t.nodes, e.info.isError = true → first.info.start < e.info.start) := by
  obtain ⟨first, hfirst⟩ := Option.isSome_iff_exists.mp
    (List.find?_isSome.mpr (List.any_eq_true.mp hfault))
  refine ⟨first, hfirst, ?_⟩
  by_cases herror : first.info.isError = true
  · have hbelow : first.flagsParents = true :=
      flagsParents_of_mem hflags (List.mem_of_find?_eq_some hfirst)
    rw [if_pos herror, ofTree_of_isError hflags hfirst horder herror, Option.some_inj]
    exact unexpected_eq_ofFault_iff text herror hbelow
  · rw [if_neg herror, ofFault, if_neg herror, ← missing,
      ofTree_of_isMissing hflags hfirst (Bool.eq_false_iff.mpr herror)]
    cases herrors : t.nodes.find? (·.info.isError) with
    | none =>
      refine ⟨fun _ e he hwrong => ?_, fun _ => rfl⟩
      exact absurd hwrong (List.find?_eq_none.mp herrors e he)
    | some error =>
      have hmem : error ∈ t.nodes := List.mem_of_find?_eq_some herrors
      have hwrong : error.info.isError = true := (List.find?_eq_some_iff_append.mp herrors).1
      show (if first.info.start < error.info.start then some (missing first)
        else some (unexpected (.ofString text) error)) = _ ↔ _
      -- the missing token comes first, but the error is told if it starts at the same place
      by_cases happart : first.info.start < error.info.start
      · rw [if_pos happart]
        refine ⟨fun _ e he hwrong => ?_, fun _ => rfl⟩
        exact Nat.lt_of_lt_of_le happart (start_le_of_find? horder herrors he hwrong)
      · rw [if_neg happart, Option.some_inj]
        exact ⟨fun h => absurd h (unexpected_ne_missing (.ofString text) error first),
          fun h => absurd (h error hmem hwrong) happart⟩

/-- The tree of `if (a {} b) ;`, where a parenthesis is missing and another fits nowhere. -/
def unclosedCondition : SyntaxTree :=
  flagged <| .onLine "program" none 0 13 [
    flagged <| .onLine "if_statement" none 0 8 [
      .fixed "if" 0 2,
      flagged <| .onLine "parenthesized_expression" (some "condition") 3 5 [
        .fixed "(" 3 4,
        .onLine "identifier" none 4 5 [],
        missingOnLine ")" 5],
      .onLine "statement_block" (some "consequence") 6 8 [
        .fixed "\x7b" 6 7,
        .fixed "\x7d" 7 8]],
    flagged <| .onLine "expression_statement" none 9 13 [
      .onLine "identifier" none 9 10 [],
      errorOnLine 10 11 [.fixed ")" 10 11],
      .fixed ";" 12 13]]

/-- The missing one is told. -/
theorem ofTree_eq_ofFault_iff_unclosedCondition :
    unclosedCondition.flagsFaults = true ∧ unclosedCondition.holdsFault = true ∧
      (unclosedCondition.nodes.Pairwise fun a b => a.info.start ≤ b.info.start) ∧
      ofTree unclosedCondition (.ofString "if (a \x7b\x7d b) ;") = some "Missing `)` (1:6)" := by
  have hflags : unclosedCondition.flagsFaults = true := by decide
  have hfault : unclosedCondition.holdsFault = true := by decide
  have horder : unclosedCondition.nodes.Pairwise fun a b => a.info.start ≤ b.info.start := by
    decide
  obtain ⟨first, hfirst, htold⟩ := ofTree_eq_ofFault_iff "if (a \x7b\x7d b) ;"
    (flagsParents_of_flagsFaults hflags) hfault horder
  obtain rfl : missingOnLine ")" 5 = first := Option.some.inj hfirst
  refine ⟨hflags, hfault, horder, (htold.mpr ?_).trans (by decide)⟩
  show ∀ e ∈ unclosedCondition.nodes, e.info.isError = true → 5 < e.info.start
  decide

/-- The tree of `var x();`, where a semicolon is missing at the byte where what fits nowhere
begins. -/
def calledVariable : SyntaxTree :=
  flagged <| .onLine "program" none 0 8 [
    flagged <| .onLine "variable_declaration" none 0 5 [
      .fixed "var" 0 3,
      .onLine "variable_declarator" none 4 5 [
        .onLine "identifier" (some "name") 4 5 []],
      missingOnLine ";" 5],
    errorOnLine 5 7 [
      .onLine "formal_parameters" none 5 7 [
        .fixed "(" 5 6,
        .fixed ")" 6 7]],
    .onLine "empty_statement" none 7 8 [
      .fixed ";" 7 8]]

/-- Not always is the first fault told: of a missing token nothing is said if an error begins
at the same byte. -/
theorem first_fault_passed_over : ¬ ∀ (text : String) (t : SyntaxTree),
    t.flagsFaults = true → t.holdsFault = true →
    (t.nodes.Pairwise fun a b => a.info.start ≤ b.info.start) →
    ∃ first, t.nodes.find? isFault = some first ∧
      ofTree t (.ofString text) = some (ofFault text first) := by
  intro h
  obtain ⟨first, hfirst, htold⟩ :=
    h "var x();" calledVariable (by decide) (by decide) (by decide)
  obtain rfl : missingOnLine ";" 5 = first := Option.some.inj hfirst
  revert htold
  decide +kernel

end Diagnostic

end CallAtlas
