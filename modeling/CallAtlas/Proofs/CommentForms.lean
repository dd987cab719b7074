import CallAtlas.Function.Documentation
import Mathlib.Data.List.Infix

/-!
# Lines that come back from a comment

The same lines can be written as comments in several forms: each behind `//`, each behind the
star of a block, or a single line between `/**` and `*/`. Cleaning a comment should give the
lines back as they were.

A line passes through several steps on its way back, and each step takes off more than one kind
of mark. What carries the proofs is that a line without blanks at its ends stays as it is
between blanks (`trimmed_padded`), and that a line without a closing mark is not shortened at
its end (`withoutClosing_open`). So each form comes down to the marks at the front of the line
itself: behind a star the line stands apart from them (`content_starred`), but behind `//` and
`/**` they are dropped with all stars and slashes that the line begins with (`content_slashed`,
`content_enclosed`). A block tells all lines, and the other forms tell them just if none begins
with a slash (`clean_forms`).
-/

namespace CallAtlas

/-! ## Lines of a text -/

namespace Lines

/-- Characters that end no line are put behind those of the line so far. -/
theorem splitOnto_line {line : List Char} (hline : '\n' ∉ line) (sofar : List Char)
    (done : List (List Char)) (rest : List Char) :
    splitOnto sofar done (line ++ rest) = splitOnto (line.reverse ++ sofar) done rest := by
  induction line generalizing sofar with
  | nil => rfl
  | cons c line ih =>
    obtain ⟨hc, hrest⟩ := not_or.mp fun h => hline (List.mem_cons.mpr h)
    rw [List.cons_append, splitOnto, if_neg fun h => hc h.symm, ih hrest, List.reverse_cons,
      List.append_assoc]
    rfl

/-- Lines that are written one below the other are split into the same lines. -/
theorem splitOnto_intercalate {lines : List (List Char)} (hne : lines ≠ [])
    (h : ∀ line ∈ lines, '\n' ∉ line) (done : List (List Char)) :
    splitOnto [] done (['\n'].intercalate lines) = done.reverse ++ lines := by
  induction lines generalizing done with
  | nil => exact absurd rfl hne
  | cons line lines ih =>
    obtain ⟨hline, hlines⟩ := List.forall_mem_cons.mp h
    have hread : ∀ rest, splitOnto [] done (line ++ rest) = splitOnto line.reverse done rest := by
      intro rest
      rw [splitOnto_line hline, List.append_nil]
    by_cases hlast : lines = []
    · have hend := hread []
      rw [List.append_nil] at hend
      rw [hlast, List.intercalate_singleton, hend, splitOnto, List.reverse_reverse,
        List.reverse_cons]
    · -- the line feed ends the line, and what is behind it begins with none so far
      rw [List.intercalate_cons_of_ne_nil hlast, List.append_assoc, hread]
      show splitOnto [] (line.reverse.reverse :: done) (['\n'].intercalate lines) = _
      rw [ih hlast hlines, List.reverse_reverse, List.reverse_cons, List.append_assoc]
      rfl

/-- Lines that are joined by line feeds are taken apart again. -/
theorem split_intercalate {lines : List String} (hne : lines ≠ [])
    (h : ∀ line ∈ lines, '\n' ∉ line.toList) :
    split ("\n".intercalate lines).toList = lines.map String.toList := by
  have hmap : ∀ line ∈ lines.map String.toList, '\n' ∉ line := by
    intro line hline
    obtain ⟨s, hs, rfl⟩ := List.mem_map.mp hline
    exact h s hs
  rw [String.toList_intercalate]
  exact splitOnto_intercalate (mt List.map_eq_nil_iff.mp hne) hmap []

end Lines

namespace Documentation

/-! ## Forms of comments -/

/-- Each line behind slashes. -/
def slashForm (lines : List String) : String := "\n".intercalate (lines.map ("// " ++ ·))

/-- Each line behind the star of a block. -/
def blockForm (lines : List String) : String :=
  "\n".intercalate ("/**" :: (lines.map (" * " ++ ·) ++ [" */"]))

/-- A block around a single line. -/
def singleForm (line : String) : String := "/** " ++ line ++ " */"

/-- A line without blanks at its ends. -/
def Tight (line : List Char) : Prop :=
  (∀ c ∈ line.head?, Blank.isBlank c = false) ∧ ∀ c ∈ line.getLast?, Blank.isBlank c = false

/-- A line that a comment can say: there is something in it, it is one line without blanks at
its ends, it does not close the comment, and it does not begin with the mark of a comment or of
a line in a block. -/
structure Sayable (line : List Char) : Prop where
  ne_nil : line ≠ []
  tight : Tight line
  oneLine : '\n' ∉ line
  unclosed : ¬ ['*', '/'] <:+: line
  unmarked : ∀ mark ∈ [['*'], ['/', '/'], ['/', '*']], ¬ mark <+: line

instance (line : List Char) : Decidable (Tight line) :=
  @instDecidableAnd _ _ (Option.decidableForallMem line.head?)
    (Option.decidableForallMem line.getLast?)

instance (line : List Char) : Decidable (Sayable line) :=
  decidable_of_iff (line ≠ [] ∧ Tight line ∧ '\n' ∉ line ∧ ¬ ['*', '/'] <:+: line ∧
      ∀ mark ∈ [['*'], ['/', '/'], ['/', '*']], ¬ mark <+: line)
    ⟨fun ⟨hne, htight, hline, hclosed, hmarked⟩ => ⟨hne, htight, hline, hclosed, hmarked⟩,
      fun h => ⟨h.ne_nil, h.tight, h.oneLine, h.unclosed, h.unmarked⟩⟩

/-! ## Blanks -/

theorem blank_space : ∀ c ∈ [' '], Blank.isBlank c = true := List.forall_mem_singleton.mpr rfl

/-- Nothing is dropped if the first character is kept. -/
theorem dropWhile_of_head {p : Char → Bool} {line : List Char}
    (h : ∀ c ∈ line.head?, p c = false) : line.dropWhile p = line := by
  cases line with
  | nil => rfl
  | cons c rest => exact List.dropWhile_cons_of_neg (Bool.eq_false_iff.mp (h c rfl))

/-- A line that ends with no blank stays as it is. -/
theorem trimmedEnd_of_last {line : List Char}
    (h : ∀ c ∈ line.getLast?, Blank.isBlank c = false) : trimmedEnd line = line := by
  rw [← List.head?_reverse] at h
  rw [trimmedEnd, dropWhile_of_head h, List.reverse_reverse]

/-- Blanks at the end are trimmed off. -/
theorem trimmedEnd_append {line back : List Char} (hback : ∀ c ∈ back, Blank.isBlank c = true) :
    trimmedEnd (line ++ back) = trimmedEnd line := by
  have hreverse : ∀ c ∈ back.reverse, Blank.isBlank c = true := fun c hc =>
    hback c (List.mem_reverse.mp hc)
  rw [trimmedEnd, List.reverse_append, List.dropWhile_append_of_pos hreverse, trimmedEnd]

/-- Blanks around a line are no part of it. -/
theorem trimmed_padded {front line back : List Char} (hne : line ≠ []) (h : Tight line)
    (hfront : ∀ c ∈ front, Blank.isBlank c = true) (hback : ∀ c ∈ back, Blank.isBlank c = true) :
    trimmed (front ++ line ++ back) = line := by
  have hfirst : (line ++ back).dropWhile Blank.isBlank = line ++ back := by
    obtain ⟨c, rest, rfl⟩ := List.exists_cons_of_ne_nil hne
    exact dropWhile_of_head h.1
  rw [trimmed, List.append_assoc, List.dropWhile_append_of_pos hfront, hfirst]
  show trimmedEnd (line ++ back) = line
  rw [trimmedEnd_append hback, trimmedEnd_of_last h.2]

/-- A line without blanks at its ends is not trimmed. -/
theorem Tight.trimmed {line : List Char} (hne : line ≠ []) (h : Tight line) :
    trimmed line = line := by
  have hnone : ∀ c ∈ ([] : List Char), Blank.isBlank c = true := fun c hc =>
    absurd hc List.not_mem_nil
  have hself := trimmed_padded hne h hnone hnone
  rwa [List.nil_append, List.append_nil] at hself

/-- Behind a blank it is trimmed to itself. -/
theorem Tight.trimmed_blank {line : List Char} (hne : line ≠ []) (h : Tight line) :
    Documentation.trimmed (' ' :: line) = line := by
  have hpadded := @trimmed_padded [' '] line [] hne h blank_space
    (fun c hc => absurd hc List.not_mem_nil)
  rwa [List.append_nil] at hpadded

/-- A line ends as it does behind anything. -/
theorem getLast?_behind {front line : List Char} (hne : line ≠ []) :
    (front ++ line).getLast? = line.getLast? := by
  rw [List.getLast?_append, List.getLast?_eq_some_getLast hne]
  rfl

/-- A line behind a mark has no blanks at its ends if it has none behind it. -/
theorem tight_cons {c : Char} {front line : List Char} (hc : Blank.isBlank c = false)
    (hne : line ≠ []) (hlast : ∀ d ∈ line.getLast?, Blank.isBlank d = false) :
    Tight (c :: front ++ line) := by
  refine ⟨fun d hd => ?_, ?_⟩
  · obtain rfl := Option.some.inj hd
    exact hc
  · rw [getLast?_behind hne]
    exact hlast

/-- Trimming puts nothing in. -/
theorem trimmed_sublist (line : List Char) : (trimmed line).Sublist line := by
  have hend : (trimmed line).reverse.Sublist (line.dropWhile Blank.isBlank).reverse := by
    rw [trimmed, List.reverse_reverse]
    exact List.dropWhile_sublist _
  exact (List.reverse_sublist.mp hend).trans (List.dropWhile_sublist _)

/-! ## Closing marks -/

/-- A character in front of a line does not close it, unless it is a star in front of a slash. -/
theorem open_cons {c : Char} {line : List Char} (h : ¬ ['*', '/'] <:+ line)
    (hc : c ≠ '*' ∨ ∀ d ∈ line.head?, d ≠ '/') : ¬ ['*', '/'] <:+ c :: line := by
  intro hclosed
  rcases List.suffix_cons_iff.mp hclosed with heq | hline
  · obtain ⟨rfl, rfl⟩ := List.cons.inj heq
    rcases hc with hc | hc
    · exact hc rfl
    · exact hc '/' rfl rfl
  · exact h hline

/-- What ends with no blank and no closing mark is not shortened. -/
theorem withoutClosing_open {line : List Char}
    (hlast : ∀ c ∈ line.getLast?, Blank.isBlank c = false) (h : ¬ ['*', '/'] <:+ line) :
    withoutClosing line = line := by
  rw [withoutClosing, trimmedEnd_of_last hlast]
  split
  · next rest hrest =>
    refine absurd ⟨rest.reverse, ?_⟩ h
    have hline := congrArg List.reverse hrest
    rw [List.reverse_reverse, List.reverse_cons, List.reverse_cons, List.append_assoc] at hline
    exact hline.symm
  · rfl

/-- The mark that closes a comment is taken off. -/
theorem withoutClosing_closed (front : List Char) :
    withoutClosing (front ++ ['*', '/']) = front := by
  have hlast : ∀ c ∈ (front ++ ['*', '/']).getLast?, Blank.isBlank c = false := by
    rw [getLast?_behind (List.cons_ne_nil _ _)]
    exact fun c hc => Option.some.inj hc ▸ rfl
  rw [withoutClosing, trimmedEnd_of_last hlast, List.reverse_append]
  exact List.reverse_reverse front

/-! ## What comes back of a line -/

/-- A line without the stars and slashes that it begins with. -/
def bared (line : List Char) : List Char := trimmed (withoutMarks line)

/-- Taking off marks puts nothing in. -/
theorem bared_sublist (line : List Char) : (bared line).Sublist line :=
  (trimmed_sublist _).trans (List.dropWhile_sublist _)

section Sayable

variable {line : List Char} (h : Sayable line)

include h

/-- A line that a comment can say does not begin with a star. -/
theorem Sayable.first_ne_star : ∀ c ∈ line.head?, c ≠ '*' := by
  rintro c hc rfl
  obtain ⟨rest, rfl⟩ := List.head?_eq_some_iff.mp hc
  exact h.unmarked ['*'] (by decide) ⟨rest, rfl⟩

theorem Sayable.not_closed : ¬ ['*', '/'] <:+ line := fun hclosed => h.unclosed hclosed.isInfix

/-- A line that begins with a slash does not come back, and any other does. -/
theorem Sayable.bared_eq_iff : bared line = line ↔ line.head? ≠ some '/' := by
  obtain ⟨c, rest, rfl⟩ := List.exists_cons_of_ne_nil h.ne_nil
  have hstar : c ≠ '*' := h.first_ne_star c rfl
  by_cases hslash : c = '/'
  · subst hslash
    refine iff_of_false (fun heq => ?_) fun hne => hne rfl
    -- the slash is gone, and nothing takes its place
    have hshort := (bared_sublist rest).length_le
    rw [bared, withoutMarks, List.dropWhile_cons_of_pos (by decide)] at heq
    rw [bared, withoutMarks, heq] at hshort
    exact absurd hshort (Nat.not_succ_le_self _)
  · have hmark : (c == '*' || c == '/') = false := by
      rw [beq_false_of_ne hstar, beq_false_of_ne hslash]
      rfl
    refine iff_of_true ?_ fun heq => hslash (Option.some.inj heq)
    rw [bared, withoutMarks, List.dropWhile_cons_of_neg (by rw [hmark]; decide)]
    exact h.tight.trimmed h.ne_nil

/-- Behind slashes a line comes back bared. -/
theorem content_slashed : content ('/' :: '/' :: ' ' :: line) = bared line := by
  have htight : Tight ('/' :: ['/', ' '] ++ line) := tight_cons (by decide) h.ne_nil h.tight.2
  have htrimmed := htight.trimmed (List.cons_ne_nil _ _)
  have hopened : withoutOpening ('/' :: '/' :: ' ' :: line) = ' ' :: line := rfl
  have hclosed : withoutClosing (' ' :: line) = ' ' :: line := by
    refine withoutClosing_open ?_ (open_cons h.not_closed (.inl (by decide)))
    rw [show ' ' :: line = [' '] ++ line from rfl, getLast?_behind h.ne_nil]
    exact h.tight.2
  rw [content, show trimmed ('/' :: '/' :: ' ' :: line) = _ from htrimmed]
  show trimmed (withoutMarks (trimmed (withoutClosing
    (withoutOpening ('/' :: '/' :: ' ' :: line))))) = _
  rw [hopened, hclosed, h.tight.trimmed_blank h.ne_nil, bared]

/-- Behind a star a line comes back as it is. -/
theorem content_starred : content (' ' :: '*' :: ' ' :: line) = line := by
  have htight : Tight ('*' :: [' '] ++ line) := tight_cons (by decide) h.ne_nil h.tight.2
  have hne : '*' :: [' '] ++ line ≠ [] := List.cons_ne_nil _ _
  have htrimmed : trimmed (' ' :: '*' :: ' ' :: line) = '*' :: ' ' :: line :=
    htight.trimmed_blank hne
  have hopened : withoutOpening ('*' :: ' ' :: line) = '*' :: ' ' :: line := rfl
  have hclosed : withoutClosing ('*' :: ' ' :: line) = '*' :: ' ' :: line := by
    have hblank : ¬ ['*', '/'] <:+ ' ' :: line := open_cons h.not_closed (.inl (by decide))
    refine withoutClosing_open htight.2 (open_cons hblank (.inr ?_))
    rintro d hd rfl
    cases hd
  -- the star ends the marks, as there is a blank behind it
  have hmarks : withoutMarks ('*' :: ' ' :: line) = ' ' :: line := rfl
  have hself : trimmed ('*' :: ' ' :: line) = '*' :: ' ' :: line := htight.trimmed hne
  rw [content, htrimmed, hopened, hclosed, hself, hmarks, h.tight.trimmed_blank h.ne_nil]

/-- In a block of one line it comes back bared. -/
theorem content_enclosed :
    content ('/' :: '*' :: '*' :: ' ' :: (line ++ [' ', '*', '/'])) = bared line := by
  have htight : Tight ('/' :: ('*' :: '*' :: ' ' :: line) ++ [' ', '*', '/']) :=
    tight_cons (by decide) (List.cons_ne_nil _ _) fun d hd => Option.some.inj hd ▸ rfl
  have htrimmed : trimmed ('/' :: '*' :: '*' :: ' ' :: (line ++ [' ', '*', '/'])) =
      '/' :: '*' :: '*' :: ' ' :: (line ++ [' ', '*', '/']) :=
    htight.trimmed (List.cons_ne_nil _ _)
  have hopened : withoutOpening ('/' :: '*' :: '*' :: ' ' :: (line ++ [' ', '*', '/'])) =
      ' ' :: (line ++ [' ', '*', '/']) := rfl
  have hclosed : withoutClosing (' ' :: (line ++ [' ', '*', '/'])) = [' '] ++ line ++ [' '] := by
    have hend := withoutClosing_closed ([' '] ++ line ++ [' '])
    rwa [List.append_assoc, List.append_assoc] at hend
  have hpadded := @trimmed_padded [' '] line [' '] h.ne_nil h.tight blank_space blank_space
  rw [content, htrimmed, hopened, hclosed, hpadded, bared]

end Sayable

/-! ## What comes back of a comment -/

/-- A comment says some lines just if these are the contents of its lines that have one. -/
theorem clean_eq_some_iff {comment : String} {contents : List (List Char)} {lines : List String}
    (hcontents : (Lines.split comment.toList).map content = contents)
    (hfree : ∀ text ∈ contents, '\n' ∉ text) (hne : lines ≠ [])
    (hlines : ∀ line ∈ lines, '\n' ∉ line.toList) :
    clean comment = some ("\n".intercalate lines) ↔
      contents.filter (!·.isEmpty) = lines.map String.toList := by
  have hclean : clean comment = if (contents.filter (!·.isEmpty)).isEmpty then none
      else some ("\n".intercalate ((contents.filter (!·.isEmpty)).map String.ofList)) := by
    rw [← hcontents]
    rfl
  rw [hclean]
  constructor
  · intro h
    split at h
    · cases h
    · next hkept =>
      -- what is joined is taken apart on both sides
      have hsome : (contents.filter (!·.isEmpty)).map String.ofList ≠ [] := fun hnil =>
        hkept (by rw [List.map_eq_nil_iff.mp hnil]; rfl)
      have hkeptfree : ∀ line ∈ (contents.filter (!·.isEmpty)).map String.ofList,
          '\n' ∉ line.toList := by
        intro line hline
        obtain ⟨text, htext, rfl⟩ := List.mem_map.mp hline
        rw [String.toList_ofList]
        exact hfree text (List.mem_filter.mp htext).1
      rw [← Lines.split_intercalate hne hlines, ← Option.some.inj h,
        Lines.split_intercalate hsome hkeptfree, List.map_map]
      exact ((List.map_congr_left fun text _ => String.toList_ofList).trans (List.map_id _)).symm
  · intro h
    have hback : (lines.map String.toList).map String.ofList = lines := by
      rw [List.map_map]
      exact (List.map_congr_left fun line _ => String.ofList_toList).trans (List.map_id _)
    have hsome : (lines.map String.toList).isEmpty ≠ true := fun hempty =>
      hne (List.map_eq_nil_iff.mp (List.isEmpty_iff.mp hempty))
    rw [h, if_neg hsome, hback]

section Forms

variable {lines : List String} (h : ∀ line ∈ lines, Sayable line.toList)

include h

/-- None of these lines is left out for being empty. -/
theorem filter_sayable :
    (lines.map String.toList).filter (!·.isEmpty) = lines.map String.toList := by
  refine List.filter_eq_self.mpr fun text htext => ?_
  obtain ⟨line, hline, rfl⟩ := List.mem_map.mp htext
  rw [List.isEmpty_eq_false_iff.mpr (h line hline).ne_nil]
  rfl

/-- Where each line comes back bared, all lines come back just if none begins with a slash. -/
theorem filter_bared_iff : (lines.map fun line => bared line.toList).filter (!·.isEmpty) =
    lines.map String.toList ↔ ∀ line ∈ lines, line.toList.head? ≠ some '/' := by
  constructor
  · intro heq line hline
    -- none is left out, as there are as many as before
    have hcount : (lines.map fun line => bared line.toList).length ≤
        ((lines.map fun line => bared line.toList).filter (!·.isEmpty)).length :=
      Nat.le_of_eq (by rw [heq, List.length_map, List.length_map])
    have hall := List.filter_sublist.eq_of_length_le hcount
    exact (h line hline).bared_eq_iff.mp (List.map_inj_left.mp (hall.symm.trans heq) line hline)
  · intro hplain
    rw [List.map_congr_left fun line hline => (h line hline).bared_eq_iff.mpr (hplain line hline)]
    exact filter_sayable h

theorem newline_not_mem_bared : ∀ text ∈ lines.map fun line => bared line.toList, '\n' ∉ text := by
  intro text htext
  obtain ⟨line, hline, rfl⟩ := List.mem_map.mp htext
  exact fun hmem => (h line hline).oneLine ((bared_sublist _).mem hmem)

/-- Marks before each line make no more lines of them. -/
theorem newline_not_mem_marked {mark : String} (hmark : '\n' ∉ mark.toList) :
    ∀ line ∈ lines.map (mark ++ ·), '\n' ∉ line.toList := by
  intro text htext
  obtain ⟨line, hline, rfl⟩ := List.mem_map.mp htext
  show '\n' ∉ (mark ++ line).toList
  rw [String.toList_append, List.mem_append]
  exact not_or.mpr ⟨hmark, (h line hline).oneLine⟩

/-- Behind slashes, the content of each line is the line without the marks that it begins with. -/
theorem contents_slashForm (hne : lines ≠ []) :
    (Lines.split (slashForm lines).toList).map content =
      lines.map fun line => bared line.toList := by
  rw [slashForm, Lines.split_intercalate (mt List.map_eq_nil_iff.mp hne)
    (newline_not_mem_marked h (by decide)), List.map_map, List.map_map]
  refine List.map_congr_left fun line hline => ?_
  have hmark : "// ".toList = ['/', '/', ' '] := by decide
  rw [Function.comp_apply, Function.comp_apply, String.toList_append, hmark]
  exact content_slashed (h line hline)

/-- In a block, the content of each line is the line, between two that have none. -/
theorem contents_blockForm : (Lines.split (blockForm lines).toList).map content =
    [] :: (lines.map String.toList ++ [[]]) := by
  have hfree : ∀ line ∈ "/**" :: (lines.map (" * " ++ ·) ++ [" */"]), '\n' ∉ line.toList := by
    intro line hline
    rcases List.mem_cons.mp hline with rfl | hline
    · decide
    · rcases List.mem_append.mp hline with hline | hline
      · exact newline_not_mem_marked h (by decide) line hline
      · obtain rfl := List.mem_singleton.mp hline
        decide
  have hstarred : ((lines.map (" * " ++ ·)).map String.toList).map content =
      lines.map String.toList := by
    rw [List.map_map, List.map_map]
    refine List.map_congr_left fun line hline => ?_
    have hmark : " * ".toList = [' ', '*', ' '] := by decide
    rw [Function.comp_apply, Function.comp_apply, String.toList_append, hmark]
    exact content_starred (h line hline)
  -- the first and the last line hold nothing but marks
  have hfirst : content "/**".toList = [] := by decide
  have hlast : [" */"].map (content ∘ String.toList) = [[]] := by decide
  rw [blockForm, Lines.split_intercalate (List.cons_ne_nil _ _) hfree, List.map_cons,
    List.map_append, List.map_cons, List.map_append, hstarred, hfirst, List.map_map, hlast]

end Forms

/-- In a block of one line, the content is the line without the marks that it begins with. -/
theorem contents_singleForm {line : String} (h : Sayable line.toList) :
    (Lines.split (singleForm line).toList).map content = [bared line.toList] := by
  have hfree : ∀ text ∈ [singleForm line], '\n' ∉ text.toList := by
    intro text htext
    obtain rfl := List.mem_singleton.mp htext
    rw [singleForm, String.toList_append, String.toList_append, List.mem_append, List.mem_append]
    exact not_or.mpr ⟨not_or.mpr ⟨by decide, h.oneLine⟩, by decide⟩
  have hsplit := Lines.split_intercalate (List.cons_ne_nil _ _) hfree
  rw [String.intercalate_singleton] at hsplit
  have hmark : "/** ".toList = ['/', '*', '*', ' '] := by decide
  have hend : " */".toList = [' ', '*', '/'] := by decide
  have hcontent : content (singleForm line).toList = bared line.toList := by
    rw [singleForm, String.toList_append, String.toList_append, hmark, hend]
    exact content_enclosed h
  rw [hsplit, List.map_singleton, List.map_singleton, hcontent]

/-- **Lines come back from comments.** A block with a star before each line says just these
lines. Slashes before each line do, and a block around a single line does, just if no line
begins with a slash. -/
theorem clean_forms {lines : List String} (hne : lines ≠ [])
    (h : ∀ line ∈ lines, Sayable line.toList) :
    clean (blockForm lines) = some ("\n".intercalate lines) ∧
    (clean (slashForm lines) = some ("\n".intercalate lines) ↔
      ∀ line ∈ lines, line.toList.head? ≠ some '/') ∧
    ∀ line, lines = [line] →
      (clean (singleForm line) = some line ↔ line.toList.head? ≠ some '/') := by
  have hlines : ∀ line ∈ lines, '\n' ∉ line.toList := fun line hline => (h line hline).oneLine
  refine ⟨?_, ?_, ?_⟩
  · -- a block has an empty line at its front and one at its end, which are left out
    have hfree : ∀ text ∈ [] :: (lines.map String.toList ++ [[]]), '\n' ∉ text := by
      intro text htext
      rcases List.mem_cons.mp htext with rfl | htext
      · exact List.not_mem_nil
      · rcases List.mem_append.mp htext with htext | htext
        · obtain ⟨line, hline, rfl⟩ := List.mem_map.mp htext
          exact hlines line hline
        · obtain rfl := List.mem_singleton.mp htext
          exact List.not_mem_nil
    refine (clean_eq_some_iff (contents_blockForm h) hfree hne hlines).mpr ?_
    rw [List.filter_cons_of_neg (by decide), List.filter_append, filter_sayable h]
    exact List.append_nil _
  · rw [clean_eq_some_iff (contents_slashForm h hne) (newline_not_mem_bared h) hne hlines]
    exact filter_bared_iff h
  · rintro line rfl
    have hline := h line (List.mem_singleton.mpr rfl)
    have htold := clean_eq_some_iff (contents_singleForm hline) (newline_not_mem_bared h) hne hlines
    rw [String.intercalate_singleton] at htold
    rw [htold]
    exact (filter_bared_iff h).trans List.forall_mem_singleton

/-- A line that begins with a slash comes back from a block, but not from behind slashes. -/
theorem clean_forms_route :
    let lines := ["Loads a user.", "/users/:id"]
    lines ≠ [] ∧ (∀ line ∈ lines, Sayable line.toList) ∧
    clean (blockForm lines) = some "Loads a user.\n/users/:id" ∧
    clean (slashForm lines) ≠ some "Loads a user.\n/users/:id" := by
  intro lines
  have hne : lines ≠ [] := List.cons_ne_nil _ _
  have hsayable : ∀ line ∈ lines, Sayable line.toList := by decide +kernel
  have hjoined : "\n".intercalate lines = "Loads a user.\n/users/:id" := by
    decide +kernel
  obtain ⟨hblock, hslash, -⟩ := clean_forms hne hsayable
  rw [hjoined] at hblock hslash
  refine ⟨hne, hsayable, hblock, fun h => ?_⟩
  exact hslash.mp h "/users/:id" (List.mem_cons_of_mem _ (List.mem_singleton.mpr rfl))
    (by decide +kernel)

/-- Not all lines come back from every form: behind `// `, the line `/api` loses its slash. -/
theorem slash_lost : ¬ ∀ lines : List String, lines ≠ [] →
    (∀ line ∈ lines, Sayable line.toList) →
    clean (slashForm lines) = some ("\n".intercalate lines) ∧
    clean (blockForm lines) = some ("\n".intercalate lines) ∧
    ∀ line, lines = [line] → clean (singleForm line) = some line := by
  intro h
  obtain ⟨hslash, -, -⟩ := h ["/api"] (List.cons_ne_nil _ _) (by decide +kernel)
  have htold : clean (slashForm ["/api"]) = some "api" := by decide +kernel
  rw [htold, String.intercalate_singleton] at hslash
  exact absurd hslash (by decide +kernel)

end Documentation

end CallAtlas
