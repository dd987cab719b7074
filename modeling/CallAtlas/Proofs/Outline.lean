import CallAtlas.Proofs.Resemblance

/-!
# Outlines of trees

The outline of a tree leaves out the comments, the positions and the texts that are not
told: trees of the same outline differ in no more than that. For most rules this is
enough to answer alike, as they go by fields and kinds. A few count children, and a
comment is a named child: the first node of an annotation, the members of a union, the
first argument of a call (`SyntaxTree.roomFor`).

Trees of one outline with comments only where no rule counts children are `Alike`. What
is said here of one node of such trees holds of its types, its parameters, and what it
imports and exports.
-/

namespace CallAtlas

namespace SyntaxTree

/-! ## What an outline keeps -/

/-- Kinds of comments. -/
def commentKinds : List String := ["comment", "html_comment"]

/-- Whether a node is a comment. -/
def isComment (t : SyntaxTree) : Bool := commentKinds.contains t.kind

/-- Nodes without the comments among them. -/
def withoutComments (cs : List SyntaxTree) : List SyntaxTree := cs.filter (!·.isComment)

/-- A tree without comments, positions and texts that are not told. -/
inductive Outline where
  | node (kind : String) (named : Bool) (field : Option String) (told : Option String)
    (children : List Outline)

namespace Outline

mutual

/-- Whether two outlines are equal. -/
def decEq (a b : Outline) : Decidable (a = b) :=
  match a, b with
  | node kind named field told cs, node kind' named' field' told' cs' =>
    match decEqIn cs cs' with
    | isTrue hcs =>
      decidable_of_iff ((kind, named, field, told) = (kind', named', field', told')) (by simp [hcs])
    | isFalse hcs => isFalse fun h => hcs (by injection h)

def decEqIn (as bs : List Outline) : Decidable (as = bs) :=
  match as, bs with
  | [], [] => isTrue rfl
  | [], _ :: _ => isFalse nofun
  | _ :: _, [] => isFalse nofun
  | a :: as, b :: bs =>
    match decEq a b with
    | isTrue hab =>
      match decEqIn as bs with
      | isTrue hrest => isTrue (by rw [hab, hrest])
      | isFalse hrest => isFalse fun h => hrest (List.cons.inj h).2
    | isFalse hab => isFalse fun h => hab (List.cons.inj h).1

end

instance : DecidableEq Outline := decEq

end Outline

/-- The text of a node below a node of some kind, if it is told. -/
def toldText (source : SourceText) (parent : String) (i : NodeInfo) : Option String :=
  if toldKinds.contains i.kind || i.field.any (toldFields parent).contains then
    some (source.slice i.start i.stop)
  else none

mutual

/-- The outline of a tree below a node of some kind. -/
def outline (source : SourceText) (parent : String) (t : SyntaxTree) : Outline :=
  match t with
  | node i cs =>
    .node i.kind i.named i.field (toldText source parent i) (outlinesIn source i.kind cs)

/-- The outlines of the nodes that are no comments. -/
def outlinesIn (source : SourceText) (parent : String) (cs : List SyntaxTree) : List Outline :=
  match cs with
  | [] => []
  | c :: rest =>
    if c.isComment then outlinesIn source parent rest
    else outline source parent c :: outlinesIn source parent rest

end

/-- Kinds of nodes of which the first named child is looked at, whatever it is. -/
def firstMatters : List String :=
  ["type_annotation", "array_type", "parenthesized_type", "literal_type", "rest_pattern",
    "jsx_attribute"]

/-- Whether the first named node is no comment. -/
def startsPlain (cs : List SyntaxTree) : Bool := (cs.find? (·.info.named)).all (!·.isComment)

/-- Whether a node of some kind has its comments where they are not counted as children:
behind the first named child where that is looked at, behind a function that is the first
argument of a call, and not in a union. A list of parameters leaves out comments of one
kind only. -/
def roomFor (kind : String) (cs : List SyntaxTree) : Bool :=
  (!firstMatters.contains kind || startsPlain cs) &&
    (kind != "union_type" || cs.all (!·.isComment)) &&
    (kind != "arguments" || startsPlain cs ||
      ((withoutComments cs).find? (·.info.named)).all (!Naming.isExpression ·.kind)) &&
    (!Naming.isFunction kind || (cs.find? (isUnder "parameters")).all
      (·.children.all (·.kind != "html_comment")))

mutual

/-- Whether comments are nodes without children and fields, and stand where there is room
for them. -/
def commentsFit (room : String → List SyntaxTree → Bool) (t : SyntaxTree) : Bool :=
  match t with
  | node i cs => room i.kind cs && commentsFitIn room cs

def commentsFitIn (room : String → List SyntaxTree → Bool) (cs : List SyntaxTree) : Bool :=
  match cs with
  | [] => true
  | c :: rest =>
    (!c.isComment || (c.info.field.isNone && c.children.isEmpty)) && commentsFit room c &&
      commentsFitIn room rest

end

/-! ## Outlines -/

/-- The outlines below a node are those of its children that are no comments. -/
theorem outlinesIn_eq (source : SourceText) (parent : String) (cs : List SyntaxTree) :
    outlinesIn source parent cs = (withoutComments cs).map (outline source parent) := by
  induction cs with
  | nil => rfl
  | cons c rest ih =>
    rw [outlinesIn, withoutComments, List.filter_cons]
    cases hc : c.isComment with
    | true => exact ih
    | false => exact congrArg (_ :: ·) ih

/-- The outline of a tree is what is seen of its node and the outlines below it. -/
theorem outline_eq (source : SourceText) (parent : String) (t : SyntaxTree) :
    t.outline source parent = .node t.kind t.info.named t.info.field
      (toldText source parent t.info)
      ((withoutComments t.children).map (outline source t.kind)) := by
  obtain ⟨i, cs⟩ := t
  rw [outline, outlinesIn_eq]
  rfl

/-- Comments fit in a tree if they do at its node and below each of its children. -/
theorem commentsFit_iff {room : String → List SyntaxTree → Bool} {t : SyntaxTree} :
    t.commentsFit room = true ↔ room t.kind t.children = true ∧ ∀ c ∈ t.children,
      (c.isComment = true → c.info.field = none ∧ c.children = []) ∧ c.commentsFit room := by
  obtain ⟨i, cs⟩ := t
  have hall : commentsFitIn room cs = true ↔ ∀ c ∈ cs,
      (c.isComment = true → c.info.field = none ∧ c.children = []) ∧ c.commentsFit room := by
    induction cs with
    | nil => simp [commentsFitIn]
    | cons c rest ih =>
      rw [commentsFitIn, Bool.and_eq_true, Bool.and_eq_true, ih, List.forall_mem_cons]
      refine and_congr_left' (and_congr_left' ?_)
      cases c.isComment <;> simp
  rw [commentsFit, Bool.and_eq_true, hall]
  rfl

/-- Nothing changes in what is found first by leaving out comments, if no comment is. -/
theorem find?_withoutComments {cs : List SyntaxTree} {q : SyntaxTree → Bool}
    (h : ∀ c ∈ cs.find? q, c.isComment = false) :
    (withoutComments cs).find? q = cs.find? q := by
  induction cs with
  | nil => rfl
  | cons c rest ih =>
    rw [List.find?_cons] at h ⊢
    rw [withoutComments, List.filter_cons]
    cases hc : q c with
    | true =>
      rw [hc] at h
      rw [if_pos (by rw [h c rfl]; rfl), List.find?_cons, hc]
    | false =>
      rw [hc] at h
      split
      · rw [List.find?_cons, hc]
        exact ih h
      · exact ih h

/-- Where comments fit, none is found under a field. -/
theorem not_comment_of_child? {room : String → List SyntaxTree → Bool} {t : SyntaxTree}
    (h : t.commentsFit room = true) {field : String} :
    ∀ c ∈ t.children.find? (isUnder field), c.isComment = false := by
  intro c hc
  cases hcomment : c.isComment with
  | false => rfl
  | true =>
    have hnone := (((commentsFit_iff.mp h).2 c (List.mem_of_find?_eq_some hc)).1 hcomment).1
    have hunder := List.find?_some hc
    rw [isUnder, hnone] at hunder
    cases hunder

/-- What room there is at a node of which the comments fit. -/
theorem room_of_fit {t : SyntaxTree} (h : t.commentsFit roomFor = true) :
    (firstMatters.contains t.kind = true → startsPlain t.children = true) ∧
    (t.kind = "union_type" → ∀ c ∈ t.children, c.isComment = false) ∧
    (t.kind = "arguments" → startsPlain t.children = true ∨
      ∀ c ∈ (withoutComments t.children).find? (·.info.named),
        Naming.isExpression c.kind = false) ∧
    (Naming.isFunction t.kind = true → ∀ list ∈ t.child? "parameters",
      ∀ c ∈ list.children, c.kind ≠ "html_comment") := by
  have hroom := (commentsFit_iff.mp h).1
  rw [roomFor] at hroom
  simp only [Bool.and_eq_true, Bool.or_eq_true, Bool.not_eq_true', bne_iff_ne, ne_eq,
    List.all_eq_true, Option.all_eq_true] at hroom
  obtain ⟨⟨⟨hfirst, hunion⟩, harguments⟩, hfunction⟩ := hroom
  refine ⟨fun hkind => ?_, fun hkind => ?_, fun hkind => ?_, fun hkind => ?_⟩
  · exact hfirst.resolve_left (by rw [hkind]; decide)
  · exact hunion.resolve_left (not_not_intro hkind)
  · exact harguments.imp (·.resolve_left (not_not_intro hkind)) id
  · exact hfunction.resolve_left (by rw [hkind]; decide)

/-- Two trees below nodes of one kind with one outline, and comments that fit. -/
structure Alike (source source' : SourceText) (parent : String) (t t' : SyntaxTree) : Prop where
  outline : t.outline source parent = t'.outline source' parent
  fit : t.commentsFit roomFor = true
  fit' : t'.commentsFit roomFor = true

namespace Alike

variable {source source' : SourceText} {parent : String} {t t' : SyntaxTree}

/-- Nodes that are alike have one kind, one field and one text if it is told. -/
theorem info_eq (h : Alike source source' parent t t') :
    t'.kind = t.kind ∧ t'.info.named = t.info.named ∧ t'.info.field = t.info.field ∧
      toldText source' parent t'.info = toldText source parent t.info := by
  have heq := h.outline
  rw [outline_eq, outline_eq] at heq
  injection heq with hkind hnamed hfield htold _
  exact ⟨hkind.symm, hnamed.symm, hfield.symm, htold.symm⟩

theorem kind_eq (h : Alike source source' parent t t') : t'.kind = t.kind := h.info_eq.1

theorem isUnder_eq (h : Alike source source' parent t t') (field : String) :
    t'.isUnder field = t.isUnder field := by
  rw [isUnder, isUnder, h.info_eq.2.2.1]

theorem text_eq (h : Alike source source' parent t t')
    (htold : toldKinds.contains t.kind = true ∨
      t.info.field.any (toldFields parent).contains = true) :
    t'.text source' = t.text source := by
  obtain ⟨hkind, -, hfield, htext⟩ := h.info_eq
  have hkind : t'.info.kind = t.info.kind := hkind
  have hyes : (toldKinds.contains t.info.kind ||
      t.info.field.any (toldFields parent).contains) = true := Bool.or_eq_true_iff.mpr htold
  rw [toldText, toldText, hkind, hfield, if_pos hyes, if_pos hyes] at htext
  exact Option.some.inj htext

/-- If the kind of a node is one whose text is told, the other node has the same text. -/
theorem text_eq_of_contains (h : Alike source source' parent t t') {kinds : List String}
    (hkinds : ∀ k ∈ kinds, k ∈ toldKinds) (hkind : kinds.contains t.kind = true) :
    t'.text source' = t.text source :=
  h.text_eq (.inl (List.contains_iff_mem.mpr (hkinds _ (List.contains_iff_mem.mp hkind))))

/-- The children that are no comments are alike, one by one. -/
theorem children (h : Alike source source' parent t t') :
    List.Forall₂ (Alike source source' t.kind) (withoutComments t.children)
      (withoutComments t'.children) := by
  have heq := h.outline
  rw [outline_eq, outline_eq] at heq
  injection heq with hkind _ _ _ hchildren
  rw [← hkind] at hchildren
  have hfit := (commentsFit_iff.mp h.fit).2
  have hfit' := (commentsFit_iff.mp h.fit').2
  exact forall₂_of_map_eq hchildren fun c hc c' hc' heq =>
    ⟨heq, (hfit c (List.mem_of_mem_filter hc)).2, (hfit' c' (List.mem_of_mem_filter hc')).2⟩

/-- The first of the children that answers to something, if it is no comment. -/
theorem find?_rel (h : Alike source source' parent t t') {q : SyntaxTree → Bool}
    (hq : ∀ c c', Alike source source' t.kind c c' → q c' = q c)
    (hfree : ∀ c ∈ t.children.find? q, c.isComment = false)
    (hfree' : ∀ c ∈ t'.children.find? q, c.isComment = false) :
    Option.Rel (Alike source source' t.kind) (t.children.find? q) (t'.children.find? q) := by
  rw [← find?_withoutComments hfree, ← find?_withoutComments hfree']
  exact find?_rel_of_forall₂ h.children hq

/-- Under a field both nodes have children that are alike, or none. -/
theorem child?_rel (h : Alike source source' parent t t') (field : String) :
    Option.Rel (Alike source source' t.kind) (t.child? field) (t'.child? field) :=
  h.find?_rel (fun _ _ hc => hc.isUnder_eq field) (not_comment_of_child? h.fit)
    (not_comment_of_child? h.fit')

/-- The text under a field where it is told whatever stands there. -/
theorem textUnder_eq (h : Alike source source' parent t t') {field : String}
    (hfield : field ∈ toldFields t.kind) :
    (t'.child? field).map (·.text source') = (t.child? field).map (·.text source) := by
  refine map_eq_of_rel (h.child?_rel field) fun c hc c' _ hcc => hcc.text_eq (.inr ?_)
  have hunder : c.isUnder field = true := List.find?_some (Option.mem_def.mp hc)
  rw [beq_iff_eq.mp hunder]
  exact List.contains_iff_mem.mpr hfield

/-- The first named child where there is room for comments behind it only. -/
theorem first_rel (h : Alike source source' parent t t')
    (hkind : firstMatters.contains t.kind = true) :
    Option.Rel (Alike source source' t.kind) t.namedChildren.head? t'.namedChildren.head? := by
  have hplain : ∀ {u : SyntaxTree}, firstMatters.contains u.kind = true →
      u.commentsFit roomFor = true → ∀ c ∈ u.children.find? (·.info.named), c.isComment = false := by
    intro u hu hfit c hc
    have hroom := (room_of_fit hfit).1 hu
    rw [startsPlain, hc] at hroom
    exact (Bool.not_eq_true' _).mp hroom
  rw [namedChildren, namedChildren, List.head?_filter, List.head?_filter]
  exact h.find?_rel (fun _ _ hc => hc.info_eq.2.1) (hplain hkind h.fit)
    (hplain (h.kind_eq ▸ hkind) h.fit')

/-- The children that pass a test are alike one by one, if no comment does and the test does not
tell what is alike apart. -/
theorem filter_children (h : Alike source source' parent t t') {q : SyntaxTree → Bool}
    (hq : ∀ c c', Alike source source' t.kind c c' → q c' = q c) :
    List.Forall₂ (Alike source source' t.kind) ((withoutComments t.children).filter q)
      ((withoutComments t'.children).filter q) :=
  List.rel_filter (fun c c' hc => show q c = true ↔ q c' = true by rw [hq c c' hc]) h.children

theorem not_comment_of_kind {c : SyntaxTree} {kind : String} (hkind : kind ∉ commentKinds)
    (hc : (c.kind == kind) = true) : c.isComment = false := by
  rw [isComment, beq_iff_eq.mp hc]
  exact Bool.eq_false_iff.mpr (mt List.contains_iff_mem.mp hkind)

/-- The named children of a kind that is none of comments. -/
theorem ofKind_rel (h : Alike source source' parent t t') (kind : String)
    (hkind : kind ∉ commentKinds) :
    List.Forall₂ (Alike source source' t.kind) (t.namedChildren.filter (·.kind == kind))
      (t'.namedChildren.filter (·.kind == kind)) := by
  have hkept : ∀ u : SyntaxTree, u.namedChildren.filter (·.kind == kind) =
      (withoutComments u.children).filter fun c => c.kind == kind && c.info.named := by
    intro u
    rw [namedChildren, withoutComments, List.filter_filter, List.filter_filter]
    refine List.filter_congr fun c _ => ?_
    cases hc : c.kind == kind with
    | false => rfl
    | true => rw [not_comment_of_kind hkind hc, Bool.not_false, Bool.and_true]
  rw [hkept, hkept]
  exact h.filter_children fun c c' hc => by rw [hc.kind_eq, hc.info_eq.2.1]

/-- Both nodes have a child of some kind or neither has, unless the kind is that of comments. -/
theorem any_kind_eq (h : Alike source source' parent t t') (kind : String)
    (hkind : kind ∉ commentKinds) :
    t'.children.any (·.kind == kind) = t.children.any (·.kind == kind) := by
  have hkept : ∀ u : SyntaxTree, u.children.any (·.kind == kind) =
      (withoutComments u.children).any (·.kind == kind) := by
    intro u
    rw [withoutComments, List.any_filter]
    refine congrArg (List.any _) (funext fun c => ?_)
    cases hc : c.kind == kind with
    | false => simp
    | true => simp [not_comment_of_kind hkind hc]
  rw [hkept, hkept, any_eq_of_forall₂ h.children fun _ _ _ hc => by rw [hc.kind_eq]]

/-- There are no comments in a union, so its members are alike one by one. -/
theorem unionMembers (h : Alike source source' parent t t') (hkind : t.kind = "union_type") :
    List.Forall₂ (Alike source source' t.kind) (t.children.filter (·.info.named))
      (t'.children.filter (·.info.named)) := by
  have hnone : ∀ {u : SyntaxTree}, u.kind = "union_type" → u.commentsFit roomFor = true →
      withoutComments u.children = u.children := by
    intro u hu hfit
    exact List.filter_eq_self.mpr fun c hc => by rw [(room_of_fit hfit).2.1 hu c hc]; rfl
  have hchildren := h.filter_children (q := fun c => c.info.named) fun _ _ hc => hc.info_eq.2.1
  rwa [hnone hkind h.fit, hnone (h.kind_eq.trans hkind) h.fit'] at hchildren

end Alike

/-- Trees of one outline answer alike to all that names and calls ask of a node. -/
theorem alike_resemblance (source source' : SourceText) :
    Resemblance source source' fun t t' => ∃ parent, Alike source source' parent t t' where
  kind := fun ⟨_, h⟩ => .inl h.kind_eq
  child := fun ⟨_, h⟩ _ field => rel_imp (h.child?_rel field) fun _ _ _ _ hc => ⟨_, hc⟩
  text := fun ⟨_, h⟩ htold => h.text_eq (.inl (List.contains_iff_mem.mpr htold))
  textUnder := fun ⟨_, h⟩ _ _ hfield => h.textUnder_eq hfield
  first := fun ⟨_, h⟩ hkind => rel_imp (h.first_rel (by rw [hkind]; decide)) fun _ _ _ _ hc => ⟨_, hc⟩

end SyntaxTree

/-! ## Types -/

namespace TypeExpr

open SyntaxTree (Alike)

variable {source source' : SourceText}

/-- The members of a union, or the type alone. -/
def parts : TypeExpr → List TypeExpr
  | union members => members
  | t => [t]

/-- The first type is that of the first named node. -/
theorem ofFirst_eq (source : SourceText) (cs : List SyntaxTree) :
    ofFirst source cs = (cs.find? (·.info.named)).map (ofTree source) := by
  induction cs with
  | nil => rfl
  | cons c rest ih =>
    rw [ofFirst, List.find?_cons]
    cases c.info.named with
    | true => rfl
    | false => exact ih

/-- The members of a union come in front of those that are already there. -/
theorem membersIn_append (source : SourceText) : ∀ (cs : List SyntaxTree) (acc : List TypeExpr),
    membersIn source cs acc = membersIn source cs [] ++ acc
  | [], acc => rfl
  | .node i inner :: rest, acc => by
    rw [membersIn, membersIn]
    split
    · exact membersIn_append source rest acc
    · split
      · rw [membersIn_append source inner, membersIn_append source inner (membersIn source rest []),
          membersIn_append source rest acc, List.append_assoc]
      · rw [membersIn_append source rest acc, List.cons_append]

/-- What a node writes, by what it shows of itself and of its children. -/
theorem ofTree_unfold (source : SourceText) (t : SyntaxTree) : ofTree source t =
    if names.contains t.kind then named (t.text source)
    else if t.kind = "generic_type" then
      (((t.child? "name").map (·.text source)).map named).getD other
    else if t.kind = "array_type" then
      ((t.namedChildren.head?.map (ofTree source)).map array).getD other
    else if t.kind = "union_type" then union (membersIn source t.children [])
    else if t.kind = "parenthesized_type" then
      group ((t.namedChildren.head?.map (ofTree source)).getD other)
    else if t.kind = "literal_type" then
      (t.namedChildren.head?.map fun value =>
        if literals.contains value.kind then named (value.text source) else other).getD other
    else other := by
  obtain ⟨i, cs⟩ := t
  rw [ofTree, ofFirst_eq, SyntaxTree.namedChildren, List.head?_filter, SyntaxTree.child?]
  simp only [SyntaxTree.children]
  cases cs.find? (SyntaxTree.isUnder "name") <;> cases cs.find? (·.info.named) <;> rfl

/-- Only a union has members of its own. -/
theorem parts_of_not_union {source : SourceText} {t : SyntaxTree} (h : t.kind ≠ "union_type") :
    (ofTree source t).parts = [ofTree source t] := by
  rw [ofTree_unfold, if_neg h]
  cases t.child? "name" <;> cases t.namedChildren.head? <;> split_ifs <;> try rfl
  all_goals
    simp only [Option.map_some, Option.getD_some]
    split_ifs <;> rfl

/-- The parts of a union are the members among its children. -/
theorem parts_of_union {source : SourceText} {t : SyntaxTree} (h : t.kind = "union_type") :
    (ofTree source t).parts = membersIn source t.children [] := by
  rw [ofTree_unfold, h]
  rfl

theorem membersIn_eq (source : SourceText) (cs : List SyntaxTree) : membersIn source cs [] =
    (cs.filter (·.info.named)).flatMap fun c => (ofTree source c).parts := by
  induction cs with
  | nil => rfl
  | cons c rest ih =>
    obtain ⟨i, inner⟩ := c
    rw [membersIn, List.filter_cons]
    cases hnamed : i.named with
    | false =>
      have hnot : ¬(SyntaxTree.node i inner).info.named = true := Bool.eq_false_iff.mp hnamed
      rw [if_pos (show (!false) = true from rfl), if_neg hnot]
      exact ih
    | true =>
      have hyes : (SyntaxTree.node i inner).info.named = true := hnamed
      rw [if_neg (show ¬(!true) = true from Bool.false_ne_true), if_pos hyes, List.flatMap_cons,
        ← ih]
      -- a union among the members gives its own members in its place
      by_cases hunion : i.kind = "union_type"
      · have hkind : (SyntaxTree.node i inner).kind = "union_type" := hunion
        rw [if_pos hunion, membersIn_append, parts_of_union hkind]
        rfl
      · have hkind : (SyntaxTree.node i inner).kind ≠ "union_type" := hunion
        rw [if_neg hunion, parts_of_not_union hkind]
        rfl

/-- A type reads the same with comments that fit as without. -/
theorem ofTree_eq (t : SyntaxTree) : ∀ {t' : SyntaxTree} {parent : String},
    Alike source source' parent t t' → ofTree source' t' = ofTree source t := by
  induction t using SyntaxTree.childInduction with
  | step t ih =>
    intro t' parent h
    have hfirst : SyntaxTree.firstMatters.contains t.kind = true →
        t'.namedChildren.head?.map (ofTree source') = t.namedChildren.head?.map (ofTree source) :=
      fun hkind => map_eq_of_rel (h.first_rel hkind) fun c hc _ _ hcc =>
        ih c (List.mem_of_mem_filter (List.mem_of_head? hc)) hcc
    rw [ofTree_unfold, ofTree_unfold, h.kind_eq]
    -- kind by kind, in the order in which they are asked about
    refine ite_congr rfl (fun hname => ?_) fun _ => ?_
    · rw [h.text_eq_of_contains (by decide) hname]
    refine ite_congr rfl (fun hkind => ?_) fun _ => ?_
    · rw [h.textUnder_eq (by rw [hkind]; decide)]
    refine ite_congr rfl (fun hkind => by rw [hfirst (by rw [hkind]; decide)]) fun _ => ?_
    refine ite_congr rfl (fun hkind => congrArg union ?_) fun _ => ?_
    · rw [membersIn_eq, membersIn_eq]
      exact flatMap_eq_of_forall₂ (h.unionMembers hkind) fun c hc c' hcc => by
        rw [ih c (List.mem_of_mem_filter hc) hcc]
    refine ite_congr rfl (fun hkind => by rw [hfirst (by rw [hkind]; decide)]) fun _ => ?_
    refine ite_congr rfl (fun hkind => congrArg (Option.getD · other) ?_) fun _ => rfl
    refine map_eq_of_rel (h.first_rel (by rw [hkind]; decide)) fun value _ value' _ hvalue => ?_
    rw [hvalue.kind_eq]
    refine ite_congr rfl (fun hname => ?_) fun _ => rfl
    rw [hvalue.text_eq_of_contains (by decide) hname]

theorem ofAnnotation_eq {t t' : SyntaxTree} {parent : String}
    (h : Alike source source' parent t t') : ofAnnotation source' t' = ofAnnotation source t := by
  unfold ofAnnotation
  rw [h.kind_eq]
  refine ite_congr rfl (fun hkind => ?_) fun _ => rfl
  have hfirst := h.first_rel (by rw [hkind]; decide)
  generalize t.namedChildren.head? = first, t'.namedChildren.head? = first' at hfirst ⊢
  cases hfirst with
  | none => rfl
  | some hc => exact congrArg render (ofTree_eq _ hc)

end TypeExpr

/-! ## Parameters -/

namespace Parameter

open SyntaxTree (Alike)

variable {source source' : SourceText} {parent : String} {t t' : SyntaxTree}

theorem defaultOf_eq (h : Alike source source' parent t t') :
    defaultOf source' t' = defaultOf source t := by
  unfold defaultOf
  rw [h.kind_eq]
  refine ite_congr rfl (fun hkind => ?_) fun _ => ite_congr rfl (fun hkind => ?_) fun _ => rfl
  · exact h.text_eq_of_contains (by decide) hkind
  · rw [h.text_eq (.inl (by rw [hkind]; decide))]

theorem restName_eq (h : Alike source source' parent t t') (hkind : t.kind = "rest_pattern")
    (index : Nat) : restName source' index t' = restName source index t := by
  have hfirst := h.first_rel (by rw [hkind]; decide)
  unfold restName
  generalize t.namedChildren.head? = first, t'.namedChildren.head? = first' at hfirst ⊢
  cases hfirst with
  | none => rfl
  | @some inner inner' hc =>
    show ite _ _ _ = ite _ _ _
    rw [hc.kind_eq]
    exact ite_congr rfl (fun hid => by rw [hc.text_eq (.inl (by rw [hid]; decide))]) fun _ => rfl

/-- A pattern has the same name, which may be made of its number. -/
theorem patternName?_eq (h : Alike source source' parent t t') (index : Nat) :
    patternName? source' index t' = patternName? source index t := by
  unfold patternName?
  rw [h.kind_eq]
  refine ite_congr rfl (fun hkind => ?_) fun _ => ite_congr rfl (fun hkind => ?_) fun _ => rfl
  · have htold : SyntaxTree.toldKinds.contains t.kind = true := by
      rcases Bool.or_eq_true_iff.mp hkind with hk | hk <;> rw [of_decide_eq_true hk] <;> decide
    rw [h.text_eq (.inl htold)]
  · rw [restName_eq h hkind]

theorem ofTyped_eq (h : Alike source source' parent t t') (index : Nat) :
    ofTyped source' index t' = ofTyped source index t := by
  have hpattern : (t'.child? "pattern").bind (patternName? source' index) =
      (t.child? "pattern").bind (patternName? source index) :=
    bind_eq_of_rel (h.child?_rel "pattern") fun _ _ _ _ hc => patternName?_eq hc index
  have hvalue : (t'.child? "value").map (defaultOf source') =
      (t.child? "value").map (defaultOf source) :=
    map_eq_of_rel (h.child?_rel "value") fun _ _ _ _ hc => defaultOf_eq hc
  have htype : (t'.child? "type").map (TypeExpr.ofAnnotation source') =
      (t.child? "type").map (TypeExpr.ofAnnotation source) :=
    map_eq_of_rel (h.child?_rel "type") fun _ _ _ _ hc => TypeExpr.ofAnnotation_eq hc
  rw [ofTyped, ofTyped, hpattern, hvalue, htype, h.kind_eq]

theorem ofAssignment_eq (h : Alike source source' parent t t') (index : Nat) :
    ofAssignment source' index t' = ofAssignment source index t := by
  have hright : (t'.child? "right").map (defaultOf source') =
      (t.child? "right").map (defaultOf source) :=
    map_eq_of_rel (h.child?_rel "right") fun _ _ _ _ hc => defaultOf_eq hc
  have hleft := h.child?_rel "left"
  rw [ofAssignment, ofAssignment, hright]
  generalize t.child? "left" = left, t'.child? "left" = left' at hleft ⊢
  cases hleft with
  | none => rfl
  | some hc =>
    show ite _ _ _ = ite _ _ _
    rw [hc.kind_eq]
    exact ite_congr rfl (fun hid => by rw [hc.text_eq (.inl (by rw [hid]; decide))]) fun _ => rfl

/-- Parameters that are alike are the same. -/
theorem ofTree_eq (h : Alike source source' parent t t') (index : Nat) :
    ofTree source' index t' = ofTree source index t := by
  unfold ofTree
  rw [h.kind_eq]
  refine ite_congr rfl (fun _ => ofTyped_eq h index) fun _ => ?_
  refine ite_congr rfl (fun hkind => ?_) fun _ => ?_
  · rw [h.text_eq (.inl (by rw [hkind]; decide))]
  refine ite_congr rfl (fun _ => ofAssignment_eq h index) fun _ => ?_
  exact ite_congr rfl (fun hkind => by rw [restName_eq h hkind]) fun _ => rfl

/-- The nodes that are counted as parameters. -/
theorem counted_eq {list : SyntaxTree} (h : ∀ c ∈ list.children, c.kind ≠ "html_comment") :
    list.namedChildren.filter (·.kind != "comment") =
      (SyntaxTree.withoutComments list.children).filter (·.info.named) := by
  rw [SyntaxTree.namedChildren, SyntaxTree.withoutComments, List.filter_comm]
  refine congrArg _ (List.filter_congr fun c hc => ?_)
  have hhtml : (c.kind == "html_comment") = false := beq_eq_false_iff_ne.mpr (h c hc)
  rw [SyntaxTree.isComment, SyntaxTree.commentKinds, List.contains_cons, List.contains_cons, hhtml,
    List.contains_nil, Bool.or_false, Bool.or_false]
  rfl

/-- A function has the same parameters with comments that fit as without. -/
theorem listOf_eq (h : Alike source source' parent t t')
    (hkind : Naming.isFunction t.kind = true) : listOf source' t' = listOf source t := by
  have hroom := (SyntaxTree.room_of_fit h.fit).2.2.2 hkind
  have hroom' := (SyntaxTree.room_of_fit h.fit').2.2.2 (h.kind_eq ▸ hkind)
  have hparameter : "parameter" ∈ SyntaxTree.toldFields t.kind := by
    rw [SyntaxTree.toldFields, if_pos hkind]
    decide
  rw [listOf_unfold, listOf_unfold, h.textUnder_eq hparameter]
  refine congrArg _ (congrArg (Option.getD · []) ?_)
  refine map_eq_of_rel (h.child?_rel "parameters") fun list hlist list' hlist' hlists => ?_
  rw [counted_eq (hroom list hlist), counted_eq (hroom' list' hlist')]
  exact mapIdx_eq_of_forall₂ (hlists.filter_children fun _ _ hc => hc.info_eq.2.1)
    fun index _ _ hc => ofTree_eq hc index

end Parameter

/-! ## Imports and exports -/

namespace ModuleSurface

open SyntaxTree (Alike)

variable {source source' : SourceText} {parent : String} {t t' : SyntaxTree}

theorem importedModule?_eq (h : Alike source source' parent t t')
    (hkind : t.kind = "import_statement") :
    importedModule? source' t' = importedModule? source t := by
  have hstring : (t'.namedChildren.find? (·.kind == "string")).map (·.text source') =
      (t.namedChildren.find? (·.kind == "string")).map (·.text source) := by
    rw [← List.head?_filter, ← List.head?_filter]
    refine map_eq_of_rel (head?_rel_of_forall₂ (h.ofKind_rel "string" (by decide)))
      fun c hc _ _ hcc => hcc.text_eq (.inl ?_)
    have hkind : (c.kind == "string") = true :=
      (List.mem_filter.mp (List.mem_of_head? (Option.mem_def.mp hc))).2
    rw [beq_iff_eq.mp hkind]
    decide
  have hcompose : ∀ (source : SourceText) (t : SyntaxTree), importedModule? source t =
      (((t.child? "source").map (·.text source)).or
        ((t.namedChildren.find? (·.kind == "string")).map (·.text source))).map unquote := by
    intro source t
    rw [importedModule?, ← Option.map_or, Option.map_map]
    rfl
  rw [hcompose, hcompose, hstring, h.textUnder_eq (by rw [hkind]; decide)]

theorem isDefault_eq (h : Alike source source' parent t t') : isDefault t' = isDefault t :=
  h.any_kind_eq "default" (by decide)

theorem defaultExport_eq {d d' : Option SyntaxTree}
    (h : Option.Rel (Alike source source' parent) d d') :
    defaultExport source' d' = defaultExport source d := by
  have hname : (d'.bind fun d => if Naming.isDeclaration d.kind then Naming.writtenName? source' d
      else none) = d.bind fun d => if Naming.isDeclaration d.kind then Naming.writtenName? source d
        else none := by
    refine bind_eq_of_rel h fun d _ d' _ hd => ?_
    rw [hd.kind_eq]
    refine ite_congr rfl (fun hkind => ?_) fun _ => rfl
    exact (SyntaxTree.alike_resemblance source source').writtenName?_eq ⟨_, hd⟩ hd.kind_eq
      (SyntaxTree.name_told_of_function (SyntaxTree.isFunction_of_declaration hkind))
  exact congrArg (Option.getD · defaultName) hname

theorem declaredNames_eq (h : Alike source source' parent t t') :
    declaredNames source' t' = declaredNames source t := by
  unfold declaredNames
  rw [h.kind_eq]
  refine ite_congr rfl (fun _ => ?_) fun _ => ite_congr rfl (fun hkind => ?_) fun _ => rfl
  · exact filterMap_eq_of_forall₂ (h.ofKind_rel "variable_declarator" (by decide)) fun _ _ _ hc =>
      (SyntaxTree.alike_resemblance source source').boundName?_eq ⟨_, hc⟩ hc.kind_eq
  · have hclasses : ∀ k ∈ classes,
        (Naming.classes ++ Naming.fields ++ Naming.elements).contains k = true := by decide
    have hname : "name" ∈ SyntaxTree.toldFields t.kind := by
      rcases Bool.or_eq_true_iff.mp hkind with hk | hk
      · exact SyntaxTree.name_told_of_function (SyntaxTree.isFunction_of_declaration hk)
      · exact SyntaxTree.name_told_of_owner (hclasses _ (List.contains_iff_mem.mp hk))
    rw [h.textUnder_eq hname]

theorem listedNames_eq (h : Alike source source' parent t t') :
    listedNames source' t' = listedNames source t := by
  have hflat : ∀ (source : SourceText) (t : SyntaxTree), listedNames source t =
      (t.namedChildren.filter (·.kind == "export_clause")).flatMap fun list =>
        (list.namedChildren.filter (·.kind == "export_specifier")).filterMap fun s =>
          (((s.child? "alias").map (·.text source)).or
            ((s.child? "name").map (·.text source))).map unquote := by
    intro source t
    simp only [listedNames, List.filterMap_flatMap, ← Option.map_or, Option.map_map]
    rfl
  rw [hflat, hflat]
  refine flatMap_eq_of_forall₂ (h.ofKind_rel "export_clause" (by decide)) fun _ _ _ hlist => ?_
  refine filterMap_eq_of_forall₂ (hlist.ofKind_rel "export_specifier" (by decide))
    fun s hs _ hss => ?_
  have hkind : (s.kind == "export_specifier") = true := (List.mem_filter.mp hs).2
  rw [hss.textUnder_eq (by rw [beq_iff_eq.mp hkind]; decide),
    hss.textUnder_eq (by rw [beq_iff_eq.mp hkind]; decide)]

/-- Exports that are alike export the same names. -/
theorem exportedNames_eq (h : Alike source source' parent t t') :
    exportedNames source' t' = exportedNames source t := by
  have hdeclaration := h.child?_rel "declaration"
  unfold exportedNames
  rw [isDefault_eq h]
  refine ite_congr rfl (fun _ => ?_) fun _ => ?_
  · rw [defaultExport_eq hdeclaration]
  · generalize t.child? "declaration" = d, t'.child? "declaration" = d' at hdeclaration ⊢
    cases hdeclaration with
    | none => exact listedNames_eq h
    | some hd => exact declaredNames_eq hd

/-- A text imports and exports the same with comments as without. -/
theorem ofTree_eq (h : Alike source source' parent t t') : ofTree source' t' = ofTree source t := by
  have himports : (t'.namedChildren.filter (·.kind == "import_statement")).filterMap
      (importedModule? source') = (t.namedChildren.filter (·.kind == "import_statement")).filterMap
        (importedModule? source) :=
    filterMap_eq_of_forall₂ (h.ofKind_rel "import_statement" (by decide)) fun s hs _ hss =>
      importedModule?_eq hss (beq_iff_eq.mp (List.mem_filter.mp hs).2)
  have hexports : (t'.namedChildren.filter (·.kind == "export_statement")).flatMap
      (exportedNames source') = (t.namedChildren.filter (·.kind == "export_statement")).flatMap
        (exportedNames source) :=
    flatMap_eq_of_forall₂ (h.ofKind_rel "export_statement" (by decide)) fun _ _ _ hss =>
      exportedNames_eq hss
  rw [ofTree, ofTree, himports, hexports]

end ModuleSurface

end CallAtlas
