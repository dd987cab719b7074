import CallAtlas.Proofs.Preorder
import CallAtlas.Source.Fault
import Mathlib.Data.List.Find
import Mathlib.Logic.Relation

/-!
# Searching a tree for faults

A tree shows its faults by flags, which say of a node whether text that fits nowhere or a
missing token is in it. Where those of all nodes with children are right
(`SyntaxTree.flagsParents`), a search that enters flagged nodes only passes over nothing that
it could be looking for: a move of its cursor takes off what is to come one place, or all of a
node without faults (`Cursor.advanceFaulty_passes`). So it finds what a search of all places
in preorder finds (`Cursor.findFaulty_eq_find?`). The flags of leaves do not matter: parsers
leave an error without children unflagged, and there is nothing in it to be passed over.

Inside an error the search goes on to the first error in it as long as there is one. It ends
at the first of all errors in it that hold no error themselves (`find?_isInnermost`): what
stands before the first error holds none, so the search never has to come back
(`nodes_of_find?`).
-/

namespace CallAtlas

/-! ## Flags -/

namespace SyntaxTree

/-- Whether a node is text that fits nowhere or a missing token. -/
def isFault (t : SyntaxTree) : Bool := t.info.isError || t.info.isMissing

/-- Whether a tree has text that fits nowhere or a missing token. -/
def holdsFault (t : SyntaxTree) : Bool := t.nodes.any isFault

/-- Whether the nodes of a tree are flagged just where there is a fault in them. -/
def flagsFaults (t : SyntaxTree) : Bool := t.nodes.all fun n => n.info.hasError == n.holdsFault

/-- Whether the nodes of a tree that have children are flagged just where there is a fault in
them. -/
def flagsParents (t : SyntaxTree) : Bool :=
  t.nodes.all fun n => n.children.isEmpty || n.info.hasError == n.holdsFault

/-- What is right of all nodes is right of those with children. -/
theorem flagsParents_of_flagsFaults {t : SyntaxTree} (h : t.flagsFaults = true) :
    t.flagsParents = true :=
  List.all_eq_true.mpr fun n hn => Bool.or_eq_true_iff.mpr (.inr (List.all_eq_true.mp h n hn))

/-- The flag of a node with children says whether it holds a fault. -/
theorem hasError_eq {t n : SyntaxTree} (h : t.flagsParents = true) (hn : n ∈ t.nodes)
    (hchildren : n.children ≠ []) : n.info.hasError = n.holdsFault := by
  have hflag := List.all_eq_true.mp h n hn
  rw [List.isEmpty_eq_false_iff.mpr hchildren, Bool.false_or] at hflag
  exact beq_iff_eq.mp hflag

/-- The flags in a node of a tree are as right as those of the tree. -/
theorem flagsParents_of_mem {t n : SyntaxTree} (h : t.flagsParents = true) (hn : n ∈ t.nodes) :
    n.flagsParents = true :=
  List.all_eq_true.mpr fun m hm => List.all_eq_true.mp h m (nodes_subset_of_mem hn hm)

/-- Text that fits nowhere is a fault. -/
theorem isFault_of_isError {n : SyntaxTree} (h : n.info.isError = true) : n.isFault = true := by
  rw [isFault, h, Bool.true_or]

/-- A missing token is a fault. -/
theorem isFault_of_isMissing {n : SyntaxTree} (h : n.info.isMissing = true) :
    n.isFault = true := by
  rw [isFault, h, Bool.or_true]

theorem holdsFault_of_isFault {n : SyntaxTree} (h : n.isFault = true) : n.holdsFault = true :=
  List.any_eq_true.mpr ⟨n, self_mem_nodes n, h⟩

/-- What holds a fault below a place is within something that holds one. -/
theorem holdsFault_of_mem_subtree {p q : Place} (hq : q ∈ p.subtree)
    (h : q.tree.holdsFault = true) : p.tree.holdsFault = true := by
  rw [holdsFault, ← subtree_map_tree, List.any_map, List.any_eq_true] at h ⊢
  obtain ⟨r, hr, hfault⟩ := h
  exact ⟨r, Place.subtree_subset hq hr, hfault⟩

end SyntaxTree

/-! ## The cursor -/

namespace Cursor

/-- What is to come at a cursor, if there is one: its place with what is below it, and what
follows. -/
def upcoming : Option Cursor → List Place
  | some c => c.place.subtree ++ c.following
  | none => []

/-- Going on passes one place, or all of a node that is not flagged, and so nothing that is
looked for if such a node holds nothing of the kind. -/
theorem advanceFaulty_passes {cond : Place → Bool} {c : Cursor} (hcond : ¬ cond c.place = true)
    (hskip : c.place.tree.info.hasError = false → ∀ q ∈ c.place.subtree, ¬ cond q = true) :
    ∃ passed, upcoming (some c) = passed ++ upcoming c.advanceFaulty ∧
      ∀ q ∈ passed, ¬ cond q = true := by
  unfold advanceFaulty
  by_cases hflag : c.place.tree.info.hasError = true
  · refine ⟨[c.place], ?_, List.forall_mem_singleton.mpr hcond⟩
    rw [if_pos hflag, upcoming, advance_spec]
    cases c.advance <;> rfl
  · refine ⟨c.place.subtree, ?_, hskip (Bool.eq_false_iff.mpr hflag)⟩
    rw [if_neg hflag, upcoming, following_leave]
    cases c.leave <;> rfl

/-- **The search with a cursor** is the search of all that is to come, if nothing that is
looked for is below a place that is not flagged and not looked for itself. -/
theorem findFaulty_eq_find? {cond : Place → Bool} (c : Cursor)
    (hskip : ∀ p ∈ upcoming (some c), ¬ cond p = true → p.tree.info.hasError = false →
      ∀ q ∈ p.subtree, ¬ cond q = true) :
    c.findFaulty cond = (upcoming (some c)).find? cond := by
  have hself : ∀ c : Cursor, c.place ∈ upcoming (some c) := fun c =>
    List.mem_append_left _ c.place.self_mem_subtree
  fun_induction findFaulty cond c with
  | case1 c hcond =>
    rw [upcoming, Place.subtree_eq, List.cons_append, List.find?_cons_of_pos hcond]
  | case2 c hcond d hd ih =>
    obtain ⟨passed, hsplit, hpassed⟩ := advanceFaulty_passes hcond (hskip _ (hself c) hcond)
    rw [hsplit, hd] at hskip ⊢
    rw [List.find?_append, List.find?_eq_none.mpr hpassed, Option.none_or]
    exact ih fun p hp => hskip p (List.mem_append_right _ hp)
  | case3 c hcond hd =>
    obtain ⟨passed, hsplit, hpassed⟩ := advanceFaulty_passes hcond (hskip _ (hself c) hcond)
    rw [hsplit, hd, upcoming, List.append_nil, List.find?_eq_none.mpr hpassed]

end Cursor

/-! ## The search of a tree -/

/-- A place at or below a child has something above it. -/
theorem Place.above_ne_nil {p c q : Place} (hc : c ∈ p.children) (hq : q ∈ c.subtree) :
    q.above ≠ [] := by
  induction c using childInduction generalizing p with
  | step c ih =>
    rw [subtree_eq] at hq
    rcases List.mem_cons.mp hq with rfl | hq
    · obtain ⟨before, habove⟩ := above_of_mem_children hc
      rw [habove]
      exact List.cons_ne_nil _ _
    · obtain ⟨d, hd, hq⟩ := List.mem_flatMap.mp hq
      exact ih d hd hd hq

namespace SyntaxTree

section Flagged

variable {t : SyntaxTree} (hflags : t.flagsParents = true)

include hflags

/-- **A search that enters flagged nodes only** finds the place that a search of all places in
preorder finds, as long as only what holds a fault is searched for. -/
theorem faultyPlace?_eq_find? {cond : Place → Bool}
    (hcond : ∀ p, cond p = true → p.tree.holdsFault = true) :
    t.faultyPlace? cond = t.visits.find? cond := by
  have hall : Cursor.upcoming (some (.ofRoot t)) = t.visits := List.append_nil _
  rw [faultyPlace?, Cursor.findFaulty_eq_find?, hall]
  intro p hp hself hflag q hq hfound
  rw [hall] at hp
  have hmem : p.tree ∈ t.nodes := by
    rw [nodes_eq_map_visits]
    exact List.mem_map_of_mem hp
  -- what is passed over besides the place itself is below it, and so the place has children
  have hchildren : p.tree.children ≠ [] := by
    rw [← p.children_map_tree]
    rw [Place.subtree_eq] at hq
    rcases List.mem_cons.mp hq with rfl | hq
    · exact absurd hfound hself
    · obtain ⟨c, hc, -⟩ := List.mem_flatMap.mp hq
      exact mt List.map_eq_nil_iff.mp (List.ne_nil_of_mem hc)
  have hholds : p.tree.holdsFault = true := holdsFault_of_mem_subtree hq (hcond q hfound)
  rw [← hasError_eq hflags hmem hchildren, hflag] at hholds
  cases hholds

theorem findFaulty_eq_find? {cond : SyntaxTree → Bool}
    (hcond : ∀ n, cond n = true → n.isFault = true) : t.findFaulty cond = t.nodes.find? cond := by
  rw [findFaulty, faultyPlace?_eq_find? hflags fun p hp => holdsFault_of_isFault (hcond _ hp),
    nodes_eq_map_visits, List.find?_map]
  rfl

/-- The error inside a node is the first one below it. -/
theorem errorInside_eq_find? :
    t.errorInside = (nodesIn t.children).find? (·.info.isError) := by
  have hvisits : t.visits = .root t :: (Place.root t).children.flatMap Place.subtree :=
    Place.subtree_eq (.root t)
  have hroot : Place.isInnerError (.root t) = false := Bool.and_false _
  -- all other places have something above them
  have hbelow : ∀ p ∈ (Place.root t).children.flatMap Place.subtree,
      p.isInnerError = p.tree.info.isError := by
    intro p hp
    obtain ⟨c, hc, hp⟩ := List.mem_flatMap.mp hp
    rw [Place.isInnerError, List.isEmpty_eq_false_iff.mpr (Place.above_ne_nil hc hp),
      Bool.not_false, Bool.and_true]
  have hnodes : ((Place.root t).children.flatMap Place.subtree).map Place.tree =
      nodesIn t.children := by
    have hall := subtree_map_tree (.root t)
    rw [Place.subtree_eq, List.map_cons] at hall
    obtain ⟨i, cs⟩ := t
    exact (List.cons.inj hall).2
  have hfault : ∀ p : Place, p.isInnerError = true → p.tree.holdsFault = true := fun p hp =>
    holdsFault_of_isFault (isFault_of_isError (Bool.and_eq_true_iff.mp hp).1)
  rw [errorInside, faultyPlace?_eq_find? hflags hfault, hvisits,
    List.find?_cons_of_neg (Bool.eq_false_iff.mp hroot), List.find?_congr hbelow, ← hnodes,
    List.find?_map]
  rfl

end Flagged

/-! ## The first node with a property -/

mutual

/-- Before the first node with a property there are only nodes without it, and behind it
comes first what is below it. -/
theorem nodes_of_find? {cond : SyntaxTree → Bool} {n : SyntaxTree} :
    ∀ t : SyntaxTree, t.nodes.find? cond = some n →
      ∃ before after, t.nodes = before ++ (n.nodes ++ after) ∧ ∀ m ∈ before, ¬ cond m = true
  | node i cs, h => by
    rw [nodes_eq] at h ⊢
    cases hnode : cond (node i cs) with
    | true =>
      rw [List.find?_cons_of_pos hnode] at h
      rw [← Option.some.inj h]
      refine ⟨[], [], ?_, fun m hm => nomatch hm⟩
      rw [List.nil_append, List.append_nil, nodes_eq]
    | false =>
      rw [List.find?_cons_of_neg (Bool.eq_false_iff.mp hnode)] at h
      obtain ⟨before, after, hsplit, hbefore⟩ := nodesIn_of_find? cs h
      refine ⟨node i cs :: before, after, congrArg (node i cs :: ·) hsplit, ?_⟩
      intro m hm
      rcases List.mem_cons.mp hm with rfl | hm
      · exact Bool.eq_false_iff.mp hnode
      · exact hbefore m hm

theorem nodesIn_of_find? {cond : SyntaxTree → Bool} {n : SyntaxTree} :
    ∀ cs : List SyntaxTree, (nodesIn cs).find? cond = some n →
      ∃ before after, nodesIn cs = before ++ (n.nodes ++ after) ∧ ∀ m ∈ before, ¬ cond m = true
  | [], h => nomatch h
  | c :: rest, h => by
    rw [nodesIn, List.find?_append] at h
    rw [nodesIn]
    cases hfirst : c.nodes.find? cond with
    | some m =>
      rw [hfirst] at h
      obtain rfl : m = n := Option.some.inj h
      obtain ⟨before, after, hsplit, hbefore⟩ := nodes_of_find? c hfirst
      refine ⟨before, after ++ nodesIn rest, ?_, hbefore⟩
      rw [hsplit, List.append_assoc, List.append_assoc]
    | none =>
      rw [hfirst] at h
      obtain ⟨before, after, hsplit, hbefore⟩ := nodesIn_of_find? rest h
      refine ⟨c.nodes ++ before, after, ?_, ?_⟩
      · rw [hsplit, List.append_assoc]
      · intro m hm
        rcases List.mem_append.mp hm with hm | hm
        · exact List.find?_eq_none.mp hfirst m hm
        · exact hbefore m hm

end

/-! ## The innermost error -/

/-- Text that fits nowhere and holds no text that fits nowhere. -/
def isInnermost (t : SyntaxTree) : Bool :=
  t.info.isError && !(nodesIn t.children).any (·.info.isError)

/-- An innermost error is an error. -/
theorem isError_of_isInnermost {t : SyntaxTree} (h : isInnermost t = true) :
    t.info.isError = true := by
  rw [isInnermost, Bool.and_eq_true] at h
  exact h.1

/-- **The innermost error** of an error is the first one in it that holds no error. The induction
follows the search from error to error. -/
theorem find?_isInnermost {e : SyntaxTree} (herror : e.info.isError = true)
    (hflags : e.flagsParents = true) :
    e.nodes.find? isInnermost = some e.innermostError := by
  fun_induction innermostError e with
  | case1 e inner hinside ih =>
    rw [errorInside_eq_find? hflags] at hinside
    obtain ⟨i, cs⟩ := e
    have hmem : inner ∈ nodesIn cs := List.mem_of_find?_eq_some hinside
    have hinner : inner.info.isError = true := (List.find?_eq_some_iff_append.mp hinside).1
    have hself : ¬ isInnermost (node i cs) = true := by
      rw [isInnermost, herror, Bool.true_and, Bool.not_eq_true', Bool.not_eq_false,
        List.any_eq_true]
      exact ⟨inner, hmem, hinner⟩
    -- nothing before the error inside is an error, and the search goes on in that error
    obtain ⟨before, after, hsplit, hbefore⟩ := nodesIn_of_find? cs hinside
    have hnone : before.find? isInnermost = none := List.find?_eq_none.mpr fun m hm hinnermost =>
      hbefore m hm (isError_of_isInnermost hinnermost)
    have hdown : inner.nodes.find? isInnermost = some inner.innermostError :=
      ih hinner (flagsParents_of_mem hflags (List.mem_cons_of_mem _ hmem))
    rw [nodes_eq, List.find?_cons_of_neg hself, hsplit, List.find?_append, List.find?_append,
      hnone, hdown]
    rfl
  | case2 e hinside =>
    rw [errorInside_eq_find? hflags] at hinside
    obtain ⟨i, cs⟩ := e
    have hself : isInnermost (node i cs) = true := by
      rw [isInnermost, herror, Bool.true_and, Bool.not_eq_true', List.any_eq_false]
      exact List.find?_eq_none.mp hinside
    rw [nodes_eq, List.find?_cons_of_pos hself]

/-! ## What is found -/

/-- The search in an error goes on from error to error until there is none inside. -/
theorem innermostError_reached (e : SyntaxTree) :
    Relation.ReflTransGen (fun outer inner => outer.errorInside = some inner) e e.innermostError ∧
      e.innermostError.errorInside = none := by
  fun_induction innermostError e with
  | case1 e inner hinside ih => exact ⟨.head hinside ih.1, ih.2⟩
  | case2 e hinside => exact ⟨.refl, hinside⟩

/-- **Nothing is missed behind the flags.** In a tree whose nodes with children are flagged
just where there are faults, a search for something that holds a fault finds the first place
in preorder, and none just if there is none. The search in an error goes from error to error
and ends at that error or at one inside it, which holds no error. -/
theorem faults_found {t : SyntaxTree} (hflags : t.flagsParents = true) :
    (∀ cond : Place → Bool, (∀ p, cond p = true → p.tree.holdsFault = true) →
      t.faultyPlace? cond = t.visits.find? cond ∧
      (t.faultyPlace? cond = none ↔ ∀ p, Place.Within t p → cond p = false)) ∧
    ∀ e ∈ t.nodes, e.info.isError = true →
      (Relation.ReflTransGen (fun outer inner => outer.errorInside = some inner)
        e e.innermostError ∧ e.innermostError.errorInside = none) ∧
      e.innermostError ∈ e.nodes ∧ e.innermostError.info.isError = true ∧
      ∀ n ∈ nodesIn e.innermostError.children, n.info.isError = false := by
  refine ⟨fun cond hcond => ?_, fun e he herror => ⟨innermostError_reached e, ?_⟩⟩
  · have hfind := faultyPlace?_eq_find? hflags hcond
    refine ⟨hfind, ?_⟩
    rw [hfind, List.find?_eq_none]
    exact forall_congr' fun p => imp_congr mem_visits_iff (Bool.not_eq_true _).to_iff
  · have hfirst := find?_isInnermost herror (flagsParents_of_mem hflags he)
    have hinnermost := (List.find?_eq_some_iff_append.mp hfirst).1
    rw [isInnermost, Bool.and_eq_true, Bool.not_eq_true', List.any_eq_false] at hinnermost
    exact ⟨List.mem_of_find?_eq_some hfirst, hinnermost.1, fun n hn =>
      Bool.eq_false_iff.mpr (hinnermost.2 n hn)⟩

/-- What fits nowhere in `x = (# 1;`, with the error in it that has no children. -/
def strayHash : SyntaxTree := errorOnLine 5 6 [errorOnLine 5 6 []]

/-- The tree of `x = (# 1;`, where a parenthesis is missing besides. -/
def unclosedNumber : SyntaxTree :=
  flagged <| .onLine "program" none 0 9 [
    flagged <| .onLine "expression_statement" none 0 9 [
      flagged <| .onLine "assignment_expression" none 0 8 [
        .onLine "identifier" (some "left") 0 1 [],
        .fixed "=" 2 3,
        flagged <| .onLine "parenthesized_expression" (some "right") 4 8 [
          .fixed "(" 4 5,
          strayHash,
          .onLine "number" none 7 8 [],
          missingOnLine ")" 8]],
      .fixed ";" 8 9]]

/-- The missing parenthesis is found, and the error in the other one, which is not flagged. -/
theorem faults_found_unclosedNumber :
    unclosedNumber.flagsParents = true ∧
      (∀ p : Place, p.tree.info.isMissing = true → p.tree.holdsFault = true) ∧
      (unclosedNumber.faultyPlace? fun p => p.tree.info.isMissing).map Place.tree =
        some (missingOnLine ")" 8) ∧
      strayHash ∈ unclosedNumber.nodes ∧ strayHash.info.isError = true ∧
      strayHash.innermostError ∈ strayHash.nodes ∧ strayHash.innermostError ≠ strayHash := by
  have hflags : unclosedNumber.flagsParents = true := by decide
  have hmissing : ∀ p : Place, p.tree.info.isMissing = true → p.tree.holdsFault = true :=
    fun p hp => holdsFault_of_isFault (isFault_of_isMissing hp)
  have hmem : strayHash ∈ unclosedNumber.nodes := List.mem_of_getElem? (i := 7) rfl
  obtain ⟨hsearch, herrors⟩ := faults_found hflags
  obtain ⟨-, hinside, -, hnone⟩ := herrors strayHash hmem rfl
  refine ⟨hflags, hmissing, ?_, hmem, rfl, hinside, fun hself => ?_⟩
  · rw [(hsearch (fun p => p.tree.info.isMissing) hmissing).1]
    rfl
  · rw [hself] at hnone
    have herror : (errorOnLine 5 6 []).info.isError = false := hnone _ (List.mem_cons_self ..)
    cases herror

end SyntaxTree

end CallAtlas
