import CallAtlas.Analysis.Source
import CallAtlas.Proofs.FaultSearch
import Mathlib.Data.List.TakeWhile

/-!
# The first dialect that fits

An analysis is all or nothing: it tells one fault and nothing else, or no fault and what
the first clean tree tells. Parsers are asked one after the other, and each may remember
what it met before. So the trees of a text are those that the parsers give in that order
(`Dialect.treeOf`), whether or not the analysis gets as far as the later ones.

A tree is refused for the flag of its root, and a dialect is asked only if the trees of all
dialects before it were refused (`Dialect.IsAsked`). So the flags have to be right in the
trees that are looked at, and only in the last tree further down than at the root: there a
search that enters flagged nodes only has to miss no fault, and then there is always
something to say of that tree (`Diagnostic.ofTree_isSome`).
-/

namespace CallAtlas

/-! ## White space -/

namespace Blank

/-- Nothing is left of a text just if all of it is white space. -/
theorem trim_eq_empty_iff (s : String) : trim s = "" ↔ isEmpty s = true := by
  rw [isEmpty, String.all_bool_eq, List.all_eq_true, trim, dropEnds, dropStart, dropEnd,
    String.toList_ofList, String.ofList_eq_empty_iff, List.reverse_eq_nil_iff,
    List.dropWhile_eq_nil_iff]
  constructor
  · intro hrest
    -- what is left at the front begins with something that is no white space, or is nothing
    have hnil : s.toList.dropWhile isBlank = [] := by
      by_contra hne
      have hhead := List.head_dropWhile_not isBlank hne
      rw [hrest _ (List.mem_reverse.mpr (List.head_mem hne))] at hhead
      cases hhead
    exact List.dropWhile_eq_nil_iff.mp hnil
  · intro hall c hc
    exact hall c ((List.dropWhile_sublist _).mem (List.mem_reverse.mp hc))

end Blank

/-! ## Faults -/

/-- Of a tree with a fault there is something to say. -/
theorem Diagnostic.ofTree_isSome {t : SyntaxTree} (source : SourceText)
    (hflags : t.flagsParents = true) (hfault : t.holdsFault = true) :
    ∃ diagnostic, ofTree t source = some diagnostic := by
  obtain ⟨n, hn, hnfault⟩ := List.any_eq_true.mp hfault
  have hsearch := fun (cond : SyntaxTree → Bool) (hcond : ∀ m, cond m = true → m.isFault = true) =>
    SyntaxTree.findFaulty_eq_find? hflags hcond
  -- nodes with faults below are flagged, so the search misses no error and no missing token
  rw [ofTree, hsearch (·.info.isError) (fun _ => SyntaxTree.isFault_of_isError),
    hsearch (·.info.isMissing) (fun _ => SyntaxTree.isFault_of_isMissing)]
  cases herror : t.nodes.find? (·.info.isError) with
  | some error =>
    cases t.nodes.find? (·.info.isMissing) with
    | some token =>
      dsimp only
      split
      · exact ⟨_, rfl⟩
      · exact ⟨_, rfl⟩
    | none => exact ⟨_, rfl⟩
  | none =>
    cases hmissing : t.nodes.find? (·.info.isMissing) with
    | some token => exact ⟨_, rfl⟩
    | none =>
      rcases Bool.or_eq_true .. ▸ hnfault with h | h
      · exact absurd h (List.find?_eq_none.mp herror n hn)
      · exact absurd h (List.find?_eq_none.mp hmissing n hn)

/-! ## The dialects in their order -/

namespace Dialect

/-- All dialects in the order in which they are tried. -/
def all : List Dialect := [tsx, typescript, javascript]

variable {σ : Type} (parse : Dialect → SourceText → StateM σ SyntaxTree) (source : SourceText)
  (s : σ)

/-- What the parsers remember when a dialect is tried, if they start with `s`. -/
def stateAt : Dialect → σ
  | tsx => s
  | typescript => (parse .tsx source s).2
  | javascript => (parse .typescript source (parse .tsx source s).2).2

/-- The tree that a dialect gives when it is tried. -/
def treeOf (d : Dialect) : SyntaxTree := (parse d source (d.stateAt parse source s)).1

/-- The dialects that are tried before a dialect. -/
def before : Dialect → List Dialect
  | tsx => []
  | typescript => [tsx]
  | javascript => [tsx, typescript]

/-- Whether a dialect is tried at all: the text is not refused unread, and the trees of all
dialects before it show that they have errors. -/
def IsAsked (limit : Nat) (d : Dialect) : Prop :=
  CleanParse.refusal? limit source.text = none ∧
    ∀ e ∈ d.before, (e.treeOf parse source s).info.hasError = true

end Dialect

namespace CleanParse

variable {σ : Type} {parse : Dialect → SourceText → StateM σ SyntaxTree} {source : SourceText}
  {s : σ}

/-- The last dialect decides by its tree alone. -/
theorem firstOf_last (d : Dialect) : (firstOf parse source d [] s).1 =
    if (parse d source s).1.info.hasError then .error (faultOf source (parse d source s).1)
    else .ok ⟨d, (parse d source s).1⟩ := rfl

/-- A dialect whose tree has errors leaves the text to the next one. -/
theorem firstOf_next (d next : Dialect) (later : List Dialect) :
    (firstOf parse source d (next :: later) s).1 =
      if (parse d source s).1.info.hasError then
        (firstOf parse source next later (parse d source s).2).1
      else .ok ⟨d, (parse d source s).1⟩ := by
  rw [firstOf]
  show ((if (parse d source s).1.info.hasError then firstOf parse source next later
    else return .ok ⟨d, (parse d source s).1⟩ : StateM σ _) (parse d source s).2).1 = _
  split <;> rfl

/-- **Trying the dialects** gives the first tree without errors, or the fault of the last
tree. -/
theorem firstOf_eq : (firstOf parse source .tsx [.typescript, .javascript] s).1 =
    match Dialect.all.find? fun d => !(d.treeOf parse source s).info.hasError with
    | some d => .ok ⟨d, d.treeOf parse source s⟩
    | none => .error (faultOf source (Dialect.javascript.treeOf parse source s)) := by
  have hall : Dialect.all = [.tsx, .typescript, .javascript] := rfl
  have htsx : (parse .tsx source s).1 = Dialect.tsx.treeOf parse source s := rfl
  have htypescript : (parse .typescript source (parse .tsx source s).2).1 =
      Dialect.typescript.treeOf parse source s := rfl
  have hjavascript : (parse .javascript source
      (parse .typescript source (parse .tsx source s).2).2).1 =
      Dialect.javascript.treeOf parse source s := rfl
  rw [firstOf_next, firstOf_next, firstOf_last, htsx, htypescript, hjavascript, hall,
    List.find?_cons, List.find?_cons, List.find?_singleton]
  cases (Dialect.tsx.treeOf parse source s).info.hasError with
  | false => rfl
  | true =>
    cases (Dialect.typescript.treeOf parse source s).info.hasError with
    | false => rfl
    | true => cases (Dialect.javascript.treeOf parse source s).info.hasError <;> rfl

/-- If the roots of the trees that are looked at are flagged right, the first tree without a
flag is the first one without a fault. -/
theorem find?_clean {limit : Nat} (hasked : refusal? limit source.text = none)
    (hroots : ∀ d : Dialect, d.IsAsked parse source s limit →
      (d.treeOf parse source s).info.hasError = (d.treeOf parse source s).holdsFault) :
    Dialect.all.find? (fun d => !(d.treeOf parse source s).info.hasError) =
      Dialect.all.find? fun d => !(d.treeOf parse source s).holdsFault := by
  have htsx := hroots .tsx ⟨hasked, List.forall_mem_nil _⟩
  cases hfirst : (Dialect.tsx.treeOf parse source s).info.hasError with
  | false => simp [Dialect.all, ← htsx, hfirst]
  | true =>
    -- the second dialect is asked now, and the third if the second tree is flagged too
    have htypescript := hroots .typescript ⟨hasked, List.forall_mem_singleton.mpr hfirst⟩
    cases hsecond : (Dialect.typescript.treeOf parse source s).info.hasError with
    | false => simp [Dialect.all, ← htsx, ← htypescript, hfirst, hsecond]
    | true =>
      have hjavascript := hroots .javascript
        ⟨hasked, List.forall_mem_cons.mpr ⟨hfirst, List.forall_mem_singleton.mpr hsecond⟩⟩
      simp [Dialect.all, ← htsx, ← htypescript, ← hjavascript, hfirst, hsecond]

/-- A text is refused if it is white space or too long. -/
theorem refusal?_isSome_iff (limit : Nat) (text : String) :
    (refusal? limit text).isSome = true ↔ Blank.trim text = "" ∨ limit < text.utf8ByteSize := by
  rw [Blank.trim_eq_empty_iff, refusal?]
  cases Blank.isEmpty text with
  | true => simp
  | false =>
    rw [if_neg Bool.false_ne_true]
    split
    · next hlong => exact ⟨fun _ => .inr hlong, fun _ => rfl⟩
    · next hshort => exact ⟨nofun, fun h => absurd (h.resolve_left Bool.false_ne_true) hshort⟩

theorem refusal?_kind {limit : Nat} {text : String} {fault : SourceFault}
    (h : refusal? limit text = some fault) : fault.kind = .validation := by
  unfold refusal? at h
  split at h
  · rw [← Option.some.inj h]
    rfl
  · split at h
    · rw [← Option.some.inj h]
      rfl
    · cases h

end CleanParse

/-! ## All or nothing -/

namespace SourceAnalysis

variable {σ : Type} {parse : Dialect → SourceText → StateM σ SyntaxTree} {limit : Nat}
  {source : SourceText} {s : σ}

/-- No parser is asked about a text that is refused. -/
theorem ofSource_of_refusal {fault : SourceFault}
    (h : CleanParse.refusal? limit source.text = some fault) :
    ((ofSource parse limit source).run s).1 = failed fault := by
  rw [ofSource, CleanParse.ofSource, h]
  rfl

theorem ofSource_of_no_refusal (h : CleanParse.refusal? limit source.text = none) :
    ((ofSource parse limit source).run s).1 =
      ofParse source (CleanParse.firstOf parse source .tsx [.typescript, .javascript] s).1 := by
  rw [ofSource, CleanParse.ofSource, h]
  rfl

/-- A text that is white space or too long is refused whatever the grammars are. -/
theorem ofSource_refused
    (h : Blank.trim source.text = "" ∨ limit < source.text.utf8ByteSize) :
    ∃ fault, fault.kind = .validation ∧
      ∀ (τ : Type) (grammars : Dialect → SourceText → StateM τ SyntaxTree) (start : τ),
        ((ofSource grammars limit source).run start).1 = failed fault := by
  obtain ⟨fault, hfault⟩ :=
    Option.isSome_iff_exists.mp ((CleanParse.refusal?_isSome_iff limit source.text).mpr h)
  exact ⟨fault, CleanParse.refusal?_kind hfault, fun _ _ _ => ofSource_of_refusal hfault⟩

section
variable (hread : CleanParse.refusal? limit source.text = none)
  (hroots : ∀ d : Dialect, d.IsAsked parse source s limit →
    (d.treeOf parse source s).info.hasError = (d.treeOf parse source s).holdsFault)
include hread hroots

/-- If the roots are flagged right, the faults of the trees decide as their flags do. -/
theorem ofSource_eq_ofParse : ((ofSource parse limit source).run s).1 = ofParse source
    (match Dialect.all.find? fun d => !(d.treeOf parse source s).holdsFault with
    | some d => .ok ⟨d, d.treeOf parse source s⟩
    | none => .error (CleanParse.faultOf source (Dialect.javascript.treeOf parse source s))) := by
  rw [ofSource_of_no_refusal hread, CleanParse.firstOf_eq, CleanParse.find?_clean hread hroots]

/-- The first tree without faults is told, and no fault with it. -/
theorem ofSource_of_clean {d : Dialect}
    (hfind : Dialect.all.find? (fun d => !(d.treeOf parse source s).holdsFault) = some d) :
    ((ofSource parse limit source).run s).1 = ofTree source (d.treeOf parse source s) := by
  rw [ofSource_eq_ofParse hread hroots, hfind]
  rfl

/-- Where no tree is clean, all roots are flagged, and so the last dialect is asked. -/
theorem isAsked_javascript (hnone : ∀ d : Dialect, (d.treeOf parse source s).holdsFault = true) :
    Dialect.javascript.IsAsked parse source s limit := by
  refine ⟨hread, fun e he => ?_⟩
  have hfind : Dialect.all.find? (fun d => !(d.treeOf parse source s).info.hasError) = none := by
    rw [CleanParse.find?_clean hread hroots, List.find?_eq_none]
    intro d _
    rw [hnone d]
    decide
  have hflag := List.find?_eq_none.mp hfind e (List.mem_of_mem_take (i := 2) he)
  rwa [Bool.not_eq_true, Bool.not_eq_false'] at hflag

/-- Where no tree is clean, what there is to say of the last one is told. -/
theorem ofSource_of_none_clean
    (hlast : Dialect.javascript.IsAsked parse source s limit →
      (Dialect.javascript.treeOf parse source s).flagsParents = true)
    (hnone : ∀ d : Dialect, (d.treeOf parse source s).holdsFault = true) :
    ∃ diagnostic,
      Diagnostic.ofTree (Dialect.javascript.treeOf parse source s) source = some diagnostic ∧
      ((ofSource parse limit source).run s).1 = failed (Diagnostic.toFault diagnostic) := by
  have hasked := isAsked_javascript hread hroots hnone
  obtain ⟨diagnostic, hdiagnostic⟩ :=
    Diagnostic.ofTree_isSome source (hlast hasked) (hnone .javascript)
  have hfind : Dialect.all.find? (fun d => !(d.treeOf parse source s).holdsFault) = none :=
    List.find?_eq_none.mpr fun d _ => by rw [hnone d]; decide
  refine ⟨diagnostic, hdiagnostic, ?_⟩
  rw [ofSource_eq_ofParse hread hroots, hfind]
  rw [ofParse, CleanParse.faultOf, hdiagnostic, Option.getD_some]

end

open SyntaxTree in
/-- The tree of `<T>x` where a type in front of an expression opens an element. -/
def openedElement : SyntaxTree :=
  flagged <| .onLine "program" none 0 4 [
    errorOnLine 0 4 [
      .onLine "jsx_opening_element" none 0 3 [
        .fixed "<" 0 1,
        .onLine "identifier" (some "name") 1 2 [],
        .fixed ">" 2 3],
      .onLine "jsx_text" none 3 4 []]]

open SyntaxTree in
/-- The tree of `<T>x` where a type in front of an expression asserts it. -/
def assertion : SyntaxTree :=
  .onLine "program" none 0 4 [
    .onLine "expression_statement" none 0 4 [
      .onLine "type_assertion" none 0 4 [
        .onLine "type_arguments" none 0 3 [
          .fixed "<" 0 1,
          .onLine "type_identifier" none 1 2 [],
          .fixed ">" 2 3],
        .onLine "identifier" none 3 4 []]]]

/-- What the dialects give for `<T>x`. -/
def assertionParsers (d : Dialect) (_ : SourceText) : StateM Unit SyntaxTree :=
  return if d = .typescript then assertion else openedElement

end SourceAnalysis

end CallAtlas
