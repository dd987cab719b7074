import CallAtlas.Proofs.Outline
import CallAtlas.Proofs.ReportTotals

/-!
# The comments before a function

Comments before the statement or member of a function document it, as long as they do not
begin on the line where the statement or member before them ends (`intended`). The search goes
backwards from one sibling to the one before and decides about a comment by the sibling right
before it, whatever that is.

Siblings follow one another in the rows of the text. So what is gathered is a beginning of what
is meant, counted from the function (`gathered_prefix`): the statement before ends no later
than the sibling right before a comment, and a comment on its line would have been refused. It
is all of it as long as no comment that is meant begins on a line where the sibling right
before it ends (`gathered_eq_intended_iff`).
-/

namespace CallAtlas

namespace Place

/-- The siblings before a place are the children of its parent up to it. -/
theorem before_append_of_mem_children {p q : Place} (h : q ∈ p.children) :
    ∃ after, p.tree.children = q.before.reverse ++ q.tree :: after := by
  have hgo : ∀ cs before : List SyntaxTree, q ∈ children.go p before cs →
      ∃ after, before.reverse ++ cs = q.before.reverse ++ q.tree :: after := by
    intro cs
    induction cs with
    | nil =>
      intro before hq
      cases hq
    | cons c rest ih =>
      intro before hq
      rcases List.mem_cons.mp hq with rfl | hq
      · exact ⟨rest, rfl⟩
      · obtain ⟨after, hafter⟩ := ih _ hq
        rw [List.reverse_cons, List.append_assoc] at hafter
        exact ⟨after, hafter⟩
  exact hgo p.tree.children [] h

end Place

namespace SyntaxTree

/-- Whether nodes stand one behind the other in the rows of a text. -/
def RowsAscend (cs : List SyntaxTree) : Prop :=
  (∀ c ∈ cs, c.info.startPoint.row ≤ c.info.stopPoint.row) ∧
    cs.Pairwise fun c d => c.info.stopPoint.row ≤ d.info.startPoint.row

instance (cs : List SyntaxTree) : Decidable (RowsAscend cs) :=
  inferInstanceAs (Decidable (_ ∧ _))

/-- Whether all siblings of a tree stand one behind the other. -/
def SiblingsAscend (t : SyntaxTree) : Prop := ∀ n ∈ t.nodes, RowsAscend n.children

instance (t : SyntaxTree) : Decidable t.SiblingsAscend :=
  inferInstanceAs (Decidable (∀ n ∈ t.nodes, RowsAscend n.children))

end SyntaxTree

namespace Documentation

open SyntaxTree

/-! ## What is meant -/

/-- A fixed text or a decorator. -/
def isPassed (t : SyntaxTree) : Bool := !t.info.named || t.kind = "decorator"

/-- A comment. -/
def isNote (t : SyntaxTree) : Bool := !isPassed t && t.isComment

/-- What is no statement and no member. -/
def isAside (t : SyntaxTree) : Bool := isPassed t || isNote t

/-- The statement or member before, among the siblings before, the nearest first. -/
def statementBefore? (before : List SyntaxTree) : Option SyntaxTree :=
  before.find? fun t => !isAside t

/-- Whether a comment begins on the line where a statement ends. -/
def trails (statement : Option SyntaxTree) (comment : SyntaxTree) : Bool :=
  statement.any fun u => u.info.stopPoint.row == comment.info.startPoint.row

/-- The comments behind the statement before that do not begin on its last line, the nearest
first. -/
def intended (before : List SyntaxTree) : List SyntaxTree :=
  ((before.takeWhile isAside).filter isNote).filter fun c => !trails (statementBefore? before) c

/-- A comment is refused that has the form of old scripts, or that begins on the line where
the sibling right before it ends. -/
def isRefused (t : SyntaxTree) (earlier : List SyntaxTree) : Bool :=
  t.kind != "comment" || isTrailing t earlier

/-- What comments say, the last first. -/
def saying (source : SourceText) (comments : List SyntaxTree) : Option String :=
  match comments.reverse.map (·.text source) with
  | [] => none
  | texts => clean ("\n".intercalate texts)

/-- A sibling is passed over, or a comment, or a statement or member. -/
theorem cases_of_sibling (t : SyntaxTree) :
    (isPassed t = true ∧ isNote t = false ∧ isAside t = true) ∨
      (isPassed t = false ∧ isNote t = true ∧ isAside t = true) ∨
      (isPassed t = false ∧ isNote t = false ∧ isAside t = false) := by
  rw [isAside]
  cases hpassed : isPassed t with
  | true =>
    refine .inl ⟨rfl, ?_, Bool.true_or _⟩
    rw [isNote, hpassed]
    rfl
  | false =>
    cases hcomment : isNote t with
    | true => exact .inr (.inl ⟨rfl, rfl, rfl⟩)
    | false => exact .inr (.inr ⟨rfl, rfl, rfl⟩)

theorem statementBefore?_aside {t : SyntaxTree} {earlier : List SyntaxTree}
    (haside : isAside t = true) :
    statementBefore? (t :: earlier) = statementBefore? earlier := by
  rw [statementBefore?, statementBefore?, List.find?_cons_of_neg (by rw [haside]; decide)]

/-- Fixed texts and decorators are looked through. -/
theorem intended_passed {t : SyntaxTree} {earlier : List SyntaxTree}
    (haside : isAside t = true) (hcomment : isNote t = false) :
    intended (t :: earlier) = intended earlier := by
  rw [intended, intended, statementBefore?_aside haside, List.takeWhile_cons_of_pos haside,
    List.filter_cons_of_neg (Bool.eq_false_iff.mp hcomment)]

/-- A comment counts unless it is on the last line of the statement before, which stands further
back and is known only from there. -/
theorem intended_comment {t : SyntaxTree} {earlier : List SyntaxTree}
    (haside : isAside t = true) (hcomment : isNote t = true) :
    intended (t :: earlier) =
      if trails (statementBefore? earlier) t then intended earlier
      else t :: intended earlier := by
  rw [intended, intended, statementBefore?_aside haside, List.takeWhile_cons_of_pos haside,
    List.filter_cons_of_pos hcomment, List.filter_cons]
  cases trails (statementBefore? earlier) t <;> rfl

/-- A statement or member ends what is meant. -/
theorem intended_statement {t : SyntaxTree} {earlier : List SyntaxTree}
    (haside : isAside t = false) : intended (t :: earlier) = [] := by
  rw [intended, List.takeWhile_cons_of_neg (Bool.eq_false_iff.mp haside)]
  rfl

/-! ## What is gathered -/

/-- The comments that are gathered, the nearest first. -/
def gathered : List SyntaxTree → List SyntaxTree
  | [] => []
  | t :: earlier =>
    if isPassed t then gathered earlier
    else if isNote t && !isRefused t earlier then t :: gathered earlier
    else []

/-- The search of `commentsBefore` gathers `gathered`, put in the order of the text. -/
theorem commentsBefore_eq (source : SourceText) (before : List SyntaxTree) :
    ∀ acc, commentsBefore source acc before =
      (gathered before).reverse.map (·.text source) ++ acc := by
  induction before with
  | nil => exact fun acc => rfl
  | cons t earlier ih =>
    intro acc
    have hstep : commentsBefore source acc (t :: earlier) =
        if isPassed t then commentsBefore source acc earlier
        else if isNote t && !isRefused t earlier then
          commentsBefore source (t.text source :: acc) earlier
        else acc := by
      rw [commentsBefore, isNote, isRefused, SyntaxTree.isComment]
      cases hpassed : isPassed t with
      | true =>
        rw [if_pos rfl, if_pos]
        simpa [isPassed] using hpassed
      | false =>
        rw [if_neg Bool.false_ne_true, if_neg]
        · by_cases hkind : t.kind = "comment"
          · simp [hkind, commentKinds]
          · simp [hkind]
        · simpa [isPassed] using hpassed
    rw [hstep, gathered, ih, ih]
    split
    · rfl
    · split
      · rw [List.reverse_cons, List.map_append, List.append_assoc]
        rfl
      · rfl

/-- Documentation is what the gathered comments say. -/
theorem at?_eq_saying {source : SourceText} {p a : Place} (h : anchor? p = some a) :
    at? source p = saying source (gathered a.before) := by
  rw [at?, h]
  show (match commentsBefore source [] a.before with
    | [] => none
    | comments => clean ("\n".intercalate comments)) = _
  rw [commentsBefore_eq, List.append_nil, saying]

/-! ## Siblings one behind the other -/

/-- Siblings one behind the other, the last first. -/
def RowsDescend (before : List SyntaxTree) : Prop :=
  (∀ t ∈ before, t.info.startPoint.row ≤ t.info.stopPoint.row) ∧
    before.Pairwise fun d c => c.info.stopPoint.row ≤ d.info.startPoint.row

theorem RowsDescend.tail {t : SyntaxTree} {earlier : List SyntaxTree}
    (h : RowsDescend (t :: earlier)) : RowsDescend earlier :=
  ⟨fun n hn => h.1 n (List.mem_cons_of_mem _ hn), h.2.of_cons⟩

theorem trails_iff {statement : Option SyntaxTree} {c : SyntaxTree} :
    trails statement c = true ↔
      ∃ u, statement = some u ∧ u.info.stopPoint.row = c.info.startPoint.row := by
  cases statement with
  | none => exact ⟨fun h => absurd h Bool.false_ne_true, fun ⟨u, hu, _⟩ => nomatch hu⟩
  | some u =>
    constructor
    · intro h
      exact ⟨u, rfl, beq_iff_eq.mp h⟩
    · rintro ⟨v, hv, hrow⟩
      obtain rfl := Option.some.inj hv
      exact beq_iff_eq.mpr hrow

/-- A comment on the last line of the statement before begins where the sibling right before it
ends: there is no room for another line between. -/
theorem isRefused_of_trails {t : SyntaxTree} {earlier : List SyntaxTree}
    (hrows : RowsDescend (t :: earlier)) (h : trails (statementBefore? earlier) t = true) :
    isRefused t earlier = true := by
  obtain ⟨u, hu, hrow⟩ := trails_iff.mp h
  have hmem : u ∈ earlier := List.mem_of_find?_eq_some hu
  cases earlier with
  | nil => cases hmem
  | cons n rest =>
    have hbefore : n.info.stopPoint.row ≤ t.info.startPoint.row :=
      List.rel_of_pairwise_cons hrows.2 (List.mem_cons_self ..)
    have hbehind : u.info.stopPoint.row ≤ n.info.stopPoint.row := by
      rcases List.mem_cons.mp hmem with rfl | hrest
      · exact Nat.le_refl _
      · have hstart := List.rel_of_pairwise_cons hrows.tail.2 hrest
        exact Nat.le_trans hstart (hrows.tail.1 n (List.mem_cons_self ..))
    have htrailing : isTrailing t (n :: rest) = true := beq_iff_eq.mpr (by omega)
    rw [isRefused, htrailing, Bool.or_true]

/-- All that stands between the statement before and a comment on its last line begins on that
line too. -/
theorem intended_eq_nil_of_trails {t : SyntaxTree} {earlier : List SyntaxTree}
    (hrows : RowsDescend (t :: earlier)) (h : trails (statementBefore? earlier) t = true) :
    intended earlier = [] := by
  obtain ⟨u, hu, hrow⟩ := trails_iff.mp h
  obtain ⟨hstatement, near, far, hsplit, hnear⟩ := List.find?_eq_some_iff_append.mp hu
  rw [Bool.not_eq_true'] at hstatement
  have htake : earlier.takeWhile isAside = near := by
    rw [hsplit, List.takeWhile_append_of_pos fun n hn => (Bool.not_not _).symm.trans (hnear n hn),
      List.takeWhile_cons_of_neg (Bool.eq_false_iff.mp hstatement), List.append_nil]
  rw [intended, htake, List.filter_eq_nil_iff]
  intro c hc
  have hcnear : c ∈ near := List.mem_of_mem_filter hc
  have hcmem : c ∈ earlier := hsplit ▸ List.mem_append_left _ hcnear
  -- the comment lies between the end of the statement and a line that begins there
  have hafter : u.info.stopPoint.row ≤ c.info.startPoint.row := by
    have hpairs := hrows.tail.2
    rw [hsplit, List.pairwise_append] at hpairs
    exact hpairs.2.2 c hcnear u (List.mem_cons_self ..)
  have hself := hrows.tail.1 c hcmem
  have hbefore := List.rel_of_pairwise_cons hrows.2 hcmem
  rw [Bool.not_eq_true', Bool.not_eq_false]
  exact trails_iff.mpr ⟨u, hu, by omega⟩

/-! ## What is gathered of what is meant -/

/-- **Nothing else is gathered:** the gathered comments are the nearest of those that are
meant. -/
theorem gathered_prefix {before : List SyntaxTree} (hrows : RowsDescend before) :
    gathered before <+: intended before := by
  induction before with
  | nil => exact List.prefix_refl _
  | cons t earlier ih =>
    have hearlier := ih hrows.tail
    rw [gathered]
    rcases cases_of_sibling t with ⟨hpassed, hcomment, haside⟩ | ⟨hpassed, hcomment, haside⟩ |
      ⟨hpassed, hcomment, haside⟩
    · rw [if_pos hpassed, intended_passed haside hcomment]
      exact hearlier
    · rw [hpassed, if_neg Bool.false_ne_true, hcomment, Bool.true_and]
      cases hrefused : isRefused t earlier with
      | true => exact List.nil_prefix
      | false =>
        -- it would have been refused on the line of the statement before
        have hapart : ¬ trails (statementBefore? earlier) t = true := by
          intro h
          rw [isRefused_of_trails hrows h] at hrefused
          cases hrefused
        rw [intended_comment haside hcomment, if_neg hapart]
        exact List.cons_prefix_cons.mpr ⟨rfl, hearlier⟩
    · rw [hpassed, hcomment]
      exact List.nil_prefix

/-- Whether a comment that is meant is refused. -/
def LosesNote (before : List SyntaxTree) : Prop :=
  ∃ nearer c further, before = nearer ++ c :: further ∧ (∀ n ∈ nearer, isAside n = true) ∧
    isNote c = true ∧ trails (statementBefore? before) c = false ∧ isRefused c further = true

theorem isAside_of_isNote {c : SyntaxTree} (h : isNote c = true) : isAside c = true := by
  rw [isAside, h, Bool.or_true]

/-- Whether a comment is lost is decided sibling by sibling, but by the same statement before for
all of them. -/
theorem losesNote_aside {t : SyntaxTree} {earlier : List SyntaxTree} (haside : isAside t = true) :
    LosesNote (t :: earlier) ↔
      (isNote t = true ∧ trails (statementBefore? earlier) t = false ∧
        isRefused t earlier = true) ∨ LosesNote earlier := by
  unfold LosesNote
  rw [statementBefore?_aside haside]
  constructor
  · rintro ⟨nearer, c, further, hsplit, hnearer, hlost⟩
    cases nearer with
    | nil =>
      obtain ⟨rfl, rfl⟩ := List.cons.inj hsplit
      exact .inl hlost
    | cons n nearer =>
      refine .inr ⟨nearer, c, further, (List.cons.inj hsplit).2, fun m hm => ?_, hlost⟩
      exact hnearer m (List.mem_cons_of_mem _ hm)
  · rintro (hlost | ⟨nearer, c, further, hsplit, hnearer, hlost⟩)
    · exact ⟨[], t, earlier, rfl, fun n hn => absurd hn List.not_mem_nil, hlost⟩
    · refine ⟨t :: nearer, c, further, congrArg (t :: ·) hsplit, fun m hm => ?_, hlost⟩
      rcases List.mem_cons.mp hm with rfl | hm
      · exact haside
      · exact hnearer m hm

theorem not_losesNote_statement {t : SyntaxTree} {earlier : List SyntaxTree}
    (haside : isAside t = false) : ¬ LosesNote (t :: earlier) := by
  rintro ⟨nearer, c, further, hsplit, hnearer, hcomment, -⟩
  cases nearer with
  | nil =>
    obtain ⟨rfl, -⟩ := List.cons.inj hsplit
    rw [isAside_of_isNote hcomment] at haside
    cases haside
  | cons n nearer =>
    obtain ⟨rfl, -⟩ := List.cons.inj hsplit
    rw [hnearer t (List.mem_cons_self ..)] at haside
    cases haside

/-- Only what is meant can be lost. -/
theorem intended_ne_nil_of_losesNote {before : List SyntaxTree} (h : LosesNote before) :
    intended before ≠ [] := by
  obtain ⟨nearer, c, further, hsplit, hnearer, hcomment, hapart, -⟩ := h
  have htake : c ∈ before.takeWhile isAside := by
    rw [hsplit, List.takeWhile_append_of_pos hnearer,
      List.takeWhile_cons_of_pos (isAside_of_isNote hcomment)]
    exact List.mem_append_right _ (List.mem_cons_self ..)
  have hmem : c ∈ intended before :=
    List.mem_filter.mpr ⟨List.mem_filter.mpr ⟨htake, hcomment⟩, by rw [hapart]; rfl⟩
  exact List.ne_nil_of_mem hmem

/-- **All is gathered** just if no comment that is meant is refused. -/
theorem gathered_eq_intended_iff {before : List SyntaxTree} (hrows : RowsDescend before) :
    gathered before = intended before ↔ ¬ LosesNote before := by
  induction before with
  | nil =>
    refine ⟨fun _ => ?_, fun _ => rfl⟩
    rintro ⟨nearer, c, further, hsplit, -⟩
    exact List.append_ne_nil_of_right_ne_nil nearer (List.cons_ne_nil c further) hsplit.symm
  | cons t earlier ih =>
    have hearlier := ih hrows.tail
    rw [gathered]
    rcases cases_of_sibling t with ⟨hpassed, hcomment, haside⟩ | ⟨hpassed, hcomment, haside⟩ |
      ⟨hpassed, hcomment, haside⟩
    · rw [if_pos hpassed, intended_passed haside hcomment, hearlier, losesNote_aside haside,
        hcomment]
      simp
    · rw [hpassed, if_neg Bool.false_ne_true, hcomment, Bool.true_and,
        intended_comment haside hcomment, losesNote_aside haside, hcomment]
      cases htrails : trails (statementBefore? earlier) t with
      | true =>
        -- on the last line of the statement nothing is meant and nothing is gathered
        have hnothing := intended_eq_nil_of_trails hrows htrails
        rw [isRefused_of_trails hrows htrails, if_pos rfl, hnothing]
        refine ⟨fun _ => ?_, fun _ => rfl⟩
        rintro (⟨-, h, -⟩ | h)
        · cases h
        · exact intended_ne_nil_of_losesNote h hnothing
      | false =>
        rw [if_neg Bool.false_ne_true]
        cases hrefused : isRefused t earlier with
        | true =>
          refine ⟨fun h => ?_, fun h => absurd (.inl ⟨rfl, rfl, rfl⟩) h⟩
          exact absurd h.symm (List.cons_ne_nil _ _)
        | false =>
          rw [Bool.not_false, if_pos rfl, List.cons_inj_right, hearlier]
          simp
    · rw [hpassed, hcomment, intended_statement haside]
      exact ⟨fun _ => not_losesNote_statement haside, fun _ => rfl⟩

/-! ## Anchors -/

theorem within_withExport {t : SyntaxTree} {p : Place} (hp : Place.Within t p) :
    Place.Within t (withExport p) := by
  rw [withExport]
  cases hparent : p.parent? with
  | none => exact hp
  | some parent =>
    show Place.Within t (if parent.kind = "export_statement" then parent else p)
    by_cases hexport : parent.kind = "export_statement"
    · rw [if_pos hexport]
      exact hp.parent? hparent
    · rw [if_neg hexport]
      exact hp

/-- The anchor of a place stands in the same tree. -/
theorem within_anchor? {t : SyntaxTree} {p a : Place} (hp : Place.Within t p)
    (h : anchor? p = some a) : Place.Within t a := by
  rw [anchor?] at h
  by_cases hdeclaration : Naming.isDeclaration p.kind = true
  · rw [if_pos hdeclaration] at h
    exact Option.some.inj h ▸ within_withExport hp
  · rw [if_neg hdeclaration] at h
    by_cases hmethod : p.kind = Naming.method
    · rw [if_pos hmethod] at h
      exact Option.some.inj h ▸ hp
    · rw [if_neg hmethod] at h
      obtain ⟨parent, hparent, h⟩ := Option.bind_eq_some_iff.mp h
      have hwithin := hp.parent? hparent
      split at h
      · obtain ⟨outer, houter, h⟩ := Option.bind_eq_some_iff.mp h
        exact Option.some.inj h ▸ within_withExport (hwithin.parent? houter)
      · split at h
        · exact Option.some.inj h ▸ hwithin
        · cases h

/-- The siblings before a place are such as the siblings of the whole tree. -/
theorem rowsDescend_before {t : SyntaxTree} {a : Place} (hrows : t.SiblingsAscend)
    (ha : Place.Within t a) : RowsDescend a.before := by
  cases ha with
  | root => exact ⟨fun n hn => absurd hn List.not_mem_nil, List.Pairwise.nil⟩
  | @child p _ hp hchild =>
    obtain ⟨after, hafter⟩ := Place.before_append_of_mem_children hchild
    have hascend := hrows p.tree (mem_nodes_iff.mpr ⟨p, hp, rfl⟩)
    rw [RowsAscend, hafter, List.pairwise_append, List.pairwise_reverse] at hascend
    refine ⟨fun n hn => hascend.1 n ?_, hascend.2.1⟩
    exact List.mem_append_left _ (List.mem_reverse.mpr hn)

/-- **Documentation of functions.** What documents a function is what some of the comments
before its statement or member say, in the order of the text: the nearest of those behind the
statement or member before that do not begin on its last line. No comment on that line is told,
and all others are told just if none of them is refused. -/
theorem documentation_spec {source : SourceText} {t : SyntaxTree} {p a : Place}
    {f : FunctionInfo} (hrows : t.SiblingsAscend) (hp : Place.Within t p)
    (hf : FunctionInfo.at? source p = some f) (ha : anchor? p = some a) :
    f ∈ FunctionInfo.listOf source t ∧ ∃ told, f.documentation = saying source told ∧
      told <+: intended a.before ∧ (∀ c ∈ told, trails (statementBefore? a.before) c = false) ∧
      (told = intended a.before ↔ ¬ LosesNote a.before) := by
  have hdescend := rowsDescend_before hrows (within_anchor? hp ha)
  have hnearest := gathered_prefix hdescend
  refine ⟨?_, gathered a.before, ?_, hnearest, fun c hc => ?_, gathered_eq_intended_iff hdescend⟩
  · rw [FunctionInfo.listOf_eq_filterMap, List.mem_filterMap]
    exact ⟨p, mem_visits_iff.mpr hp, hf⟩
  · obtain ⟨name, -, rfl⟩ := Option.map_eq_some_iff.mp hf
    exact at?_eq_saying ha
  · have hmeant := (List.mem_filter.mp (hnearest.subset hc)).2
    rwa [Bool.not_eq_true'] at hmeant

/-- A node on a later line, which begins at an offset. -/
def onRow (row lineStart : Nat) (kind : String) (named : Bool) (field : Option String)
    (start stop : Nat) (children : List SyntaxTree) : SyntaxTree :=
  .node ⟨kind, named, field, false, false, false, start, stop, ⟨row, start - lineStart⟩,
    ⟨row, stop - lineStart⟩⟩ children

/-- The tree of a statement with a comment behind it, a comment on the next line and the function
`f` on the third. -/
def twoComments : SyntaxTree :=
  .node ⟨"program", true, none, false, false, false, 0, 28, ⟨0, 0⟩, ⟨2, 15⟩⟩ [
    .onLine "expression_statement" none 0 2 [
      .onLine "identifier" none 0 1 [],
      .fixed ";" 1 2],
    .onLine "comment" none 3 7 [],
    onRow 1 8 "comment" true none 8 12 [],
    onRow 2 13 "function_declaration" true none 13 28 [
      onRow 2 13 "function" false none 13 21 [],
      onRow 2 13 "identifier" true (some "name") 22 23 [],
      onRow 2 13 "formal_parameters" true (some "parameters") 23 25 [
        onRow 2 13 "(" false none 23 24 [],
        onRow 2 13 ")" false none 24 25 []],
      onRow 2 13 "statement_block" true (some "body") 26 28 [
        onRow 2 13 "\x7b" false none 26 27 [],
        onRow 2 13 "\x7d" false none 27 28 []]]]

/-- The second comment documents the function, and the first one does not. -/
theorem documentation_spec_twoComments :
    let source := SourceText.ofString "x; // a\n// b\nfunction f() \x7b\x7d"
    let p := twoComments.placeAt 6
    twoComments.SiblingsAscend ∧ Place.Within twoComments p ∧ anchor? p = some p ∧
      ∃ f, FunctionInfo.at? source p = some f ∧ f.documentation = some "b" := by
  intro source p
  have hrows : twoComments.SiblingsAscend := by decide
  have hp : Place.Within twoComments p := mem_visits_iff.mp (twoComments.placeAt_mem 6)
  have ha : anchor? p = some p := rfl
  have hsome : (FunctionInfo.at? source p).isSome = true := by decide
  obtain ⟨f, hf⟩ := Option.isSome_iff_exists.mp hsome
  obtain ⟨-, told, htold, -, -, hall⟩ := documentation_spec hrows hp hf ha
  -- the nearer comment has a line of its own, and the other one is not meant
  have hkept : ¬ LosesNote p.before := by
    have hbefore : p.before = [onRow 1 8 "comment" true none 8 12 [],
        .onLine "comment" none 3 7 [],
        .onLine "expression_statement" none 0 2 [
          .onLine "identifier" none 0 1 [],
          .fixed ";" 1 2]] := rfl
    rw [hbefore, losesNote_aside (by decide), losesNote_aside (by decide)]
    rintro (⟨-, -, hrefused⟩ | ⟨-, hapart, -⟩ | hlost)
    · revert hrefused
      decide
    · revert hapart
      decide
    · exact not_losesNote_statement (by decide) hlost
  refine ⟨hrows, hp, ha, f, hf, ?_⟩
  rw [htold, hall.mpr hkept]
  decide

/-- The tree of `class A { /** Doc */ m() {} }`. -/
def firstMember : SyntaxTree :=
  .onLine "program" none 0 29 [
    .onLine "class_declaration" none 0 29 [
      .fixed "class" 0 5,
      .onLine "type_identifier" (some "name") 6 7 [],
      .onLine "class_body" (some "body") 8 29 [
        .fixed "\x7b" 8 9,
        .onLine "comment" none 10 20 [],
        .onLine "method_definition" none 21 27 [
          .onLine "property_identifier" (some "name") 21 22 [],
          .onLine "formal_parameters" (some "parameters") 22 24 [
            .fixed "(" 22 23,
            .fixed ")" 23 24],
          .onLine "statement_block" (some "body") 25 27 [
            .fixed "\x7b" 25 26,
            .fixed "\x7d" 26 27]],
        .fixed "\x7d" 28 29]]]

/-- Not always are all comments told that are meant: a comment is lost that stands on the line
of the brace before it. -/
theorem comment_lost : ¬ ∀ (source : SourceText) (t : SyntaxTree) (p a : Place)
    (f : FunctionInfo), t.SiblingsAscend → Place.Within t p → FunctionInfo.at? source p = some f →
    anchor? p = some a → f.documentation = saying source (intended a.before) := by
  intro h
  let source := SourceText.ofString "class A \x7b /** Doc */ m() \x7b\x7d \x7d"
  have hsome : (FunctionInfo.at? source (firstMember.placeAt 7)).isSome = true := by
    decide
  obtain ⟨f, hf⟩ := Option.isSome_iff_exists.mp hsome
  have hmeant := h source firstMember (firstMember.placeAt 7) (firstMember.placeAt 7) f
    (by decide) (mem_visits_iff.mp (firstMember.placeAt_mem 7)) hf rfl
  have hnothing : (FunctionInfo.at? source (firstMember.placeAt 7)).map (·.documentation) =
      some none := by decide
  have hdoc : saying source (intended (firstMember.placeAt 7).before) = some "Doc" := by
    decide
  rw [hf, Option.map_some, hmeant, hdoc] at hnothing
  revert hnothing
  decide

end Documentation

end CallAtlas
