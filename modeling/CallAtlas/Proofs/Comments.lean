import CallAtlas.Proofs.Outline

/-!
# Comments

Comments should document functions and change nothing else. Trees of one outline with
comments that fit tell the same functions, calls, imports and exports: the places of both
trees correspond one by one if the comments are passed over, and places that correspond
are seated alike, so functions at them have the same name.

The comments must fit. Behind a comment a function is no longer the first argument of a
call, and so it has no name.
-/

namespace CallAtlas

/-! ## Places -/

namespace Place

open SyntaxTree (Alike withoutComments startsPlain roomFor)

variable {source source' : SourceText}

/-- Comments have no fields, so they leave a node the first one under its field. -/
theorem isField_withoutComments {c t : SyntaxTree} {before : List SyntaxTree} {above : List Crumb}
    (h : ∀ b ∈ before, b.isComment = true → b.info.field = none) (field : String) :
    (⟨c, ⟨t, before⟩ :: above⟩ : Place).isField field =
      (c.isUnder field && !(withoutComments before).any (SyntaxTree.isUnder field)) := by
  have hany : before.any (SyntaxTree.isUnder field) =
      (withoutComments before).any (SyntaxTree.isUnder field) := by
    rw [Bool.eq_iff_iff, List.any_eq_true, List.any_eq_true]
    refine exists_congr fun b => ⟨fun ⟨hb, hunder⟩ => ⟨List.mem_filter.mpr ⟨hb, ?_⟩, hunder⟩,
      fun ⟨hb, hunder⟩ => ⟨List.mem_of_mem_filter hb, hunder⟩⟩
    cases hcomment : b.isComment with
    | false => rfl
    | true =>
      rw [SyntaxTree.isUnder, h b hb hcomment] at hunder
      cases hunder
  rw [← hany]
  rfl

/-- Functions are no comments. -/
theorem not_comment_of_expression {c : SyntaxTree} (h : Naming.isExpression c.kind = true) :
    c.isComment = false := by
  cases hcomment : c.isComment with
  | false => rfl
  | true =>
    have hnone : ∀ k ∈ SyntaxTree.commentKinds, Naming.isExpression k = false := by decide
    exact absurd h (Bool.eq_false_iff.mp (hnone c.kind (List.contains_iff_mem.mp hcomment)))

/-- Where there is room in the arguments of a call, comments leave a function the first
argument. -/
theorem isFirstNamed_withoutComments {c t : SyntaxTree} {before rest : List SyntaxTree}
    {above : List Crumb} (hexpr : Naming.isExpression c.kind = true)
    (hroom : startsPlain (before.reverse ++ c :: rest) = true ∨
      ∀ a ∈ (withoutComments (before.reverse ++ c :: rest)).find? (·.info.named),
        Naming.isExpression a.kind = false) :
    (⟨c, ⟨t, before⟩ :: above⟩ : Place).isFirstNamed =
      (c.info.named && !(withoutComments before).any (·.info.named)) := by
  show (c.info.named && !before.any (·.info.named)) = _
  cases hnamed : c.info.named with
  | false => rfl
  | true =>
    refine congrArg (true && !·) ?_
    cases hkept : (withoutComments before).any (·.info.named) with
    | true =>
      obtain ⟨b, hb, hbnamed⟩ := List.any_eq_true.mp hkept
      exact List.any_eq_true.mpr ⟨b, List.mem_of_mem_filter hb, hbnamed⟩
    | false =>
      -- what is named before the function can only be a comment, and the room excludes that
      have hnone := List.any_eq_false.mp hkept
      rw [List.any_eq_false]
      intro b hb hbnamed
      rcases hroom with hplain | hother
      · have hfound : (before.reverse.find? (·.info.named)).isSome = true :=
          List.find?_isSome.mpr ⟨b, List.mem_reverse.mpr hb, hbnamed⟩
        obtain ⟨d, hd⟩ := Option.isSome_iff_exists.mp hfound
        rw [startsPlain, List.find?_append, hd] at hplain
        have hdkept : d ∈ withoutComments before :=
          List.mem_filter.mpr ⟨List.mem_reverse.mp (List.mem_of_find?_eq_some hd), hplain⟩
        have hdnamed := List.find?_some hd
        exact hnone d hdkept hdnamed
      · have hbefore : (before.filter (!·.isComment)).reverse.find? (·.info.named) = none :=
          List.find?_eq_none.mpr fun d hd => hnone d (List.mem_reverse.mp hd)
        have hfirst : (withoutComments (before.reverse ++ c :: rest)).find? (·.info.named) =
            some c := by
          rw [withoutComments, List.filter_append, List.find?_append, List.filter_reverse, hbefore,
            Option.none_or, List.filter_cons,
            if_pos (by rw [not_comment_of_expression hexpr]; rfl), List.find?_cons, hnamed]
        exact absurd hexpr (Bool.eq_false_iff.mp (hother c hfirst))

/-- Trees below nodes of one kind, whichever it is, with one outline. -/
abbrev AlikeTrees (source source' : SourceText) (t t' : SyntaxTree) : Prop :=
  ∃ parent, Alike source source' parent t t'

/-- Places in trees of one outline. -/
abbrev AlikeSeats (source source' : SourceText) : Place → Place → Prop :=
  Seated (AlikeTrees source source') fun _ _ _ => True

section Siblings

variable {c : SyntaxTree} {rest before : List SyntaxTree} (p : Place)

omit p in
theorem withoutComments_comment (hc : c.isComment = true) :
    withoutComments (c :: rest) = withoutComments rest :=
  List.filter_cons_of_neg (by rw [hc]; decide)

omit p in
theorem withoutComments_other (hc : c.isComment = false) :
    withoutComments (c :: rest) = c :: withoutComments rest :=
  List.filter_cons_of_pos (by rw [hc]; rfl)

theorem filter_go_comment (hc : c.isComment = true) :
    (children.go p before (c :: rest)).filter (!·.tree.isComment) =
      (children.go p (c :: before) rest).filter (!·.tree.isComment) :=
  List.filter_cons_of_neg (by rw [hc]; decide)

theorem filter_go_other (hc : c.isComment = false) :
    (children.go p before (c :: rest)).filter (!·.tree.isComment) =
      ⟨c, ⟨p.tree, before⟩ :: p.above⟩ ::
        (children.go p (c :: before) rest).filter (!·.tree.isComment) :=
  List.filter_cons_of_pos (by rw [hc]; rfl)

/-- Among comments only, there is no child that is none. -/
theorem filter_go_of_comments : ∀ {cs before : List SyntaxTree}, withoutComments cs = [] →
    (children.go p before cs).filter (!·.tree.isComment) = []
  | [], _, _ => rfl
  | c :: rest, before, hcs => by
    cases hc : c.isComment with
    | true =>
      rw [filter_go_comment p hc]
      exact filter_go_of_comments (withoutComments_comment hc ▸ hcs)
    | false =>
      rw [withoutComments_other hc] at hcs
      cases hcs

end Siblings

section Children

variable {p p' : Place} (h : Resembles (AlikeTrees source source') (fun _ _ _ => True) p p')

include h

/-- Children that are alike, with siblings before them that are. -/
theorem seated_child {c c' : SyntaxTree} {before before' rest rest' : List SyntaxTree}
    (hc : Alike source source' p.kind c c') (hcs : before.reverse ++ c :: rest = p.tree.children)
    (hcs' : before'.reverse ++ c' :: rest' = p'.tree.children)
    (hbefore : List.Forall₂ (Alike source source' p.kind) (withoutComments before)
      (withoutComments before')) :
    AlikeSeats source source' ⟨c, ⟨p.tree, before⟩ :: p.above⟩
      ⟨c', ⟨p'.tree, before'⟩ :: p'.above⟩ := by
  obtain ⟨parent, htree⟩ := h.tree
  refine ⟨⟨⟨p.kind, hc⟩, .node ⟨parent, htree⟩ trivial h.above⟩, ?_, ?_⟩
  · intro hexpr q hq hkind
    obtain rfl := Option.some.inj hq
    have hexpr' : Naming.isExpression c'.kind = true := hc.kind_eq ▸ hexpr
    have hroom := (SyntaxTree.room_of_fit htree.fit).2.2.1 hkind
    have hroom' := (SyntaxTree.room_of_fit htree.fit').2.2.1 (htree.kind_eq.trans hkind)
    rw [isFirstNamed_withoutComments hexpr (hcs ▸ hroom),
      isFirstNamed_withoutComments hexpr' (hcs' ▸ hroom'), hc.info_eq.2.1,
      any_eq_of_forall₂ hbefore fun _ _ _ hb => hb.info_eq.2.1]
  · intro _ _ _ _
    have hnone : ∀ {u v : SyntaxTree} {bs rest : List SyntaxTree}, u.commentsFit roomFor = true →
        bs.reverse ++ v :: rest = u.children →
        ∀ b ∈ bs, b.isComment = true → b.info.field = none := fun hfit heq b hb hcomment =>
      (((SyntaxTree.commentsFit_iff.mp hfit).2 b
        (heq ▸ List.mem_append_left _ (List.mem_reverse.mpr hb))).1 hcomment).1
    rw [isField_withoutComments (hnone htree.fit hcs), isField_withoutComments (hnone htree.fit' hcs'),
      hc.isUnder_eq, any_eq_of_forall₂ hbefore fun _ _ _ hb => hb.isUnder_eq _]

/-- The children that are no comments correspond. Both lists are gone through together, and a
comment is passed on the side where it stands. -/
theorem go_rel : ∀ (cs cs' before before' : List SyntaxTree),
    before.reverse ++ cs = p.tree.children → before'.reverse ++ cs' = p'.tree.children →
    List.Forall₂ (Alike source source' p.kind) (withoutComments cs) (withoutComments cs') →
    List.Forall₂ (Alike source source' p.kind) (withoutComments before) (withoutComments before') →
    List.Forall₂ (AlikeSeats source source')
      ((children.go p before cs).filter (!·.tree.isComment))
      ((children.go p' before' cs').filter (!·.tree.isComment))
  | [], cs', before, before', _, _, hkept, _ => by
    rw [filter_go_of_comments p' (List.forall₂_nil_left_iff.mp hkept)]
    exact .nil
  | c :: rest, cs', before, before', hcs, hcs', hkept, hbefore => by
    have hstep : (c :: before).reverse ++ rest = p.tree.children := by
      rw [List.reverse_cons, List.append_assoc]
      exact hcs
    cases hc : c.isComment with
    | true =>
      rw [filter_go_comment p hc]
      rw [withoutComments_comment hc] at hkept
      exact go_rel rest cs' (c :: before) before' hstep hcs' hkept
        (by rwa [withoutComments_comment hc])
    | false =>
      cases cs' with
      | nil =>
        rw [withoutComments_other hc] at hkept
        cases hkept
      | cons c' rest' =>
        have hstep' : (c' :: before').reverse ++ rest' = p'.tree.children := by
          rw [List.reverse_cons, List.append_assoc]
          exact hcs'
        cases hc' : c'.isComment with
        | true =>
          rw [filter_go_comment p' hc']
          rw [withoutComments_comment hc'] at hkept
          exact go_rel (c :: rest) rest' before (c' :: before') hcs hstep' hkept
            (by rwa [withoutComments_comment hc'])
        | false =>
          rw [withoutComments_other hc, withoutComments_other hc'] at hkept
          rw [filter_go_other p hc, filter_go_other p' hc']
          obtain ⟨hcc, hrest⟩ := List.forall₂_cons.mp hkept
          refine .cons (seated_child h hcc hcs hcs' hbefore)
            (go_rel rest rest' (c :: before) (c' :: before') hstep hstep' hrest ?_)
          rw [withoutComments_other hc, withoutComments_other hc']
          exact .cons hcc hbefore
termination_by cs cs' => cs.length + cs'.length

end Children

/-- The node of a child is a child of the node. -/
theorem tree_mem_children {p q : Place} (h : q ∈ p.children) : q.tree ∈ p.tree.children := by
  rw [← p.children_map_tree]
  exact List.mem_map_of_mem h

/-- Nothing stands below a comment. -/
theorem below_comments {p : Place} (h : p.tree.commentsFit roomFor = true) :
    p.below (·.tree.isComment) = p.children.filter (!·.tree.isComment) := by
  have hleaf : ∀ q ∈ p.children, q.tree.isComment = true → q.children = [] := by
    intro q hq hcomment
    have hnone := (((SyntaxTree.commentsFit_iff.mp h).2 _ (tree_mem_children hq)).1 hcomment).2
    rw [Place.children, hnone, children.go]
  rw [below]
  generalize p.children = qs at hleaf
  induction qs with
  | nil => rfl
  | cons q qs ih =>
    obtain ⟨hq, hqs⟩ := List.forall_mem_cons.mp hleaf
    rw [List.flatMap_cons, List.filter_cons, ih hqs]
    cases hcomment : q.tree.isComment with
    | true => rw [if_pos rfl, hq hcomment]; rfl
    | false => rfl

/-- With the comments passed over, the places below correspond one by one. -/
theorem below_rel {p p' : Place} (h : AlikeSeats source source' p p') :
    List.Forall₂ (AlikeSeats source source') (p.below (·.tree.isComment))
      (p'.below (·.tree.isComment)) := by
  obtain ⟨parent, htree⟩ := h.tree
  rw [below_comments htree.fit, below_comments htree.fit']
  exact go_rel h.toResembles _ _ [] [] rfl rfl htree.children .nil

/-- Functions have the same name in trees of one outline. -/
theorem name?_eq_of_alike {p p' : Place} (h : AlikeSeats source source' p p') :
    Naming.name? source' p' = Naming.name? source p := by
  refine Seated.name?_eq (SyntaxTree.alike_resemblance source source') h fun _ q q' hq => ?_
  obtain ⟨parent, htree⟩ := hq.tree
  exact htree.kind_eq

end Place

/-! ## What is told -/

/-- A function without where it stands and what documents it. -/
def FunctionInfo.content (f : FunctionInfo) : FunctionInfo :=
  { f with span := .unknown, documentation := none }

/-- The functions that a call joins. -/
def CallSite.ends (c : CallSite) : String × String := (c.caller, c.callee)

/-- Functions at places that correspond have the same content. -/
theorem Place.content_eq_of_alike {source source' : SourceText} {p p' : Place}
    (h : AlikeSeats source source' p p') :
    (FunctionInfo.at? source' p').map FunctionInfo.content =
      (FunctionInfo.at? source p).map FunctionInfo.content := by
  have hname := name?_eq_of_alike h
  obtain ⟨parent, htree⟩ := h.tree
  unfold FunctionInfo.at?
  rw [hname]
  cases hp : Naming.name? source p with
  | none => simp only [Option.map_none]
  | some name =>
    have hfunction : Naming.isFunction p.tree.kind = true := CallSite.isFunction_of_name? hp
    have hreturn : (p'.tree.child? "return_type").map (TypeExpr.ofAnnotation source') =
        (p.tree.child? "return_type").map (TypeExpr.ofAnnotation source) :=
      map_eq_of_rel (htree.child?_rel "return_type") fun _ _ _ _ hc => TypeExpr.ofAnnotation_eq hc
    have hexported : FunctionInfo.exportedAt p' = FunctionInfo.exportedAt p :=
      h.exportedAt_eq (SyntaxTree.alike_resemblance source source') (bare_of_function hfunction)
    simp only [Option.map_some, FunctionInfo.ofPlace, FunctionInfo.content,
      Parameter.listOf_eq htree hfunction, hreturn, htree.any_kind_eq "async" (by decide), hexported]

/-- A comment is no function and no call. -/
theorem Place.kind_of_comment {q : Place} (h : q.tree.isComment = true) :
    Naming.isFunction q.kind = false ∧ q.kind ≠ "call_expression" := by
  have hkinds : ∀ k ∈ SyntaxTree.commentKinds,
      Naming.isFunction k = false ∧ k ≠ "call_expression" := by decide
  exact hkinds q.kind (List.contains_iff_mem.mp h)

/-- Trees of one outline have the same functions, but for where they are and what documents
them. -/
theorem FunctionInfo.content_listOf {source source' : SourceText} {t t' : SyntaxTree}
    (h : Place.AlikeSeats source source' (.root t) (.root t')) :
    (listOf source' t').map content = (listOf source t).map content := by
  rw [listOf_eq_filterMap, listOf_eq_filterMap]
  refine Place.visits_map_eq (fun _ _ => Place.below_rel) (fun q hq => ?_) (fun q hq => ?_)
    (fun _ _ => Place.content_eq_of_alike) h
  · rw [at?, Place.name?_of_not_function (Place.kind_of_comment hq).1, Option.map_none]
  · rw [at?, Place.name?_of_not_function (Place.kind_of_comment hq).1, Option.map_none]

/-- The names of functions are part of their content. -/
theorem CallSite.isKnown_of_content {functions functions' : List FunctionInfo}
    (h : functions'.map FunctionInfo.content = functions.map FunctionInfo.content) :
    isKnown functions' = isKnown functions := by
  have hcontent : ∀ functions : List FunctionInfo,
      isKnown functions = isKnown (functions.map FunctionInfo.content) := by
    intro functions
    funext name
    rw [isKnown, isKnown, List.any_map]
    rfl
  rw [hcontent, h, ← hcontent]

namespace SourceAnalysis

/-- **Comments that fit document functions and change nothing else.** Trees of one outline
tell the same functions up to where they stand and what documents them, in the same order,
calls between the same functions, and the same imports and exports. -/
theorem eq_of_outline {source source' : SourceText} {t t' : SyntaxTree}
    (houtline : t.outline source "" = t'.outline source' "")
    (hfit : t.commentsFit SyntaxTree.roomFor = true)
    (hfit' : t'.commentsFit SyntaxTree.roomFor = true) :
    (ofTree source' t').functions.map FunctionInfo.content =
        (ofTree source t).functions.map FunctionInfo.content ∧
      (ofTree source' t').calls.map CallSite.ends = (ofTree source t).calls.map CallSite.ends ∧
      (ofTree source' t').imports = (ofTree source t).imports ∧
      (ofTree source' t').exports = (ofTree source t).exports := by
  have htree : SyntaxTree.Alike source source' "" t t' := ⟨houtline, hfit, hfit'⟩
  have hroot : Place.AlikeSeats source source' (.root t) (.root t') :=
    ⟨⟨⟨"", htree⟩, .root⟩, fun _ _ hq => (nomatch hq), fun _ _ hq => (nomatch hq)⟩
  have hfunctions := FunctionInfo.content_listOf hroot
  -- a call is told if its target is the name of a function, and the names are the same
  have hknown := CallSite.isKnown_of_content hfunctions
  have hcalls := Place.calls_map_eq (g := CallSite.ends) (SyntaxTree.alike_resemblance source source')
    (fun _ _ => Place.below_rel) (fun _ => Place.kind_of_comment) (fun _ => Place.kind_of_comment)
    (fun _ _ h => h.toResembles) (fun _ _ => Place.name?_eq_of_alike) (fun _ _ _ _ _ => rfl) hroot
    (CallSite.isKnown (FunctionInfo.listOf source t))
  have hsurface := ModuleSurface.ofTree_eq htree
  refine ⟨hfunctions, ?_, congrArg ModuleSurface.imports hsurface,
    congrArg ModuleSurface.exports hsurface⟩
  show (CallSite.among _ _ _).map _ = (CallSite.among _ _ _).map _
  rw [CallSite.among_eq_listOf, CallSite.among_eq_listOf, hknown]
  exact hcalls

/-- The tree of `function f(a){f()}`, or of that text with `n` bytes of comments behind the
parameter. -/
def oneParameter (comments : List SyntaxTree) (n : Nat) : SyntaxTree :=
  .onLine "program" none 0 (18 + n) [
    .onLine "function_declaration" none 0 (18 + n) [
      .fixed "function" 0 8,
      .onLine "identifier" (some "name") 9 10 [],
      .onLine "formal_parameters" (some "parameters") 10 (13 + n) ([
        .fixed "(" 10 11,
        .onLine "required_parameter" none 11 12 [
          .onLine "identifier" (some "pattern") 11 12 []]] ++
        comments ++ [.fixed ")" (12 + n) (13 + n)]),
      .onLine "statement_block" (some "body") (13 + n) (18 + n) [
        .fixed "\x7b" (13 + n) (14 + n),
        .onLine "expression_statement" none (14 + n) (17 + n) [
          .onLine "call_expression" none (14 + n) (17 + n) [
            .onLine "identifier" (some "function") (14 + n) (15 + n) [],
            .onLine "arguments" (some "arguments") (15 + n) (17 + n) [
              .fixed "(" (15 + n) (16 + n),
              .fixed ")" (16 + n) (17 + n)]]],
        .fixed "\x7d" (17 + n) (18 + n)]]]

/-- The tree of `function f(a/**/){f()}`. -/
def commentedParameter : SyntaxTree := oneParameter [.onLine "comment" none 12 16 []] 4

/-- A comment behind a parameter is no other parameter. -/
theorem eq_of_outline_oneParameter :
    ((oneParameter [] 0).outline (.ofString "function f(a){f()}") "" =
        commentedParameter.outline (.ofString "function f(a/**/){f()}") "" ∧
      (oneParameter [] 0).commentsFit SyntaxTree.roomFor = true ∧
      commentedParameter.commentsFit SyntaxTree.roomFor = true) ∧
    (ofTree (.ofString "function f(a/**/){f()}") commentedParameter).functions.map
        FunctionInfo.content =
      (ofTree (.ofString "function f(a){f()}") (oneParameter [] 0)).functions.map
        FunctionInfo.content ∧
    (ofTree (.ofString "function f(a/**/){f()}") commentedParameter).calls.map CallSite.ends =
      (ofTree (.ofString "function f(a){f()}") (oneParameter [] 0)).calls.map CallSite.ends := by
  have hfits : (oneParameter [] 0).outline (.ofString "function f(a){f()}") "" =
        commentedParameter.outline (.ofString "function f(a/**/){f()}") "" ∧
      (oneParameter [] 0).commentsFit SyntaxTree.roomFor = true ∧
      commentedParameter.commentsFit SyntaxTree.roomFor = true := by
    decide +kernel
  obtain ⟨hfunctions, hcalls, -⟩ := eq_of_outline hfits.1 hfits.2.1 hfits.2.2
  exact ⟨hfits, hfunctions, hcalls⟩

/-- The tree of `g(()=>{})`, or of that text with `n` bytes of comments before the function. -/
def firstArgument (comments : List SyntaxTree) (n : Nat) : SyntaxTree :=
  .onLine "program" none 0 (9 + n) [
    .onLine "expression_statement" none 0 (9 + n) [
      .onLine "call_expression" none 0 (9 + n) [
        .onLine "identifier" (some "function") 0 1 [],
        .onLine "arguments" (some "arguments") 1 (9 + n) ([.fixed "(" 1 2] ++ comments ++ [
          .onLine "arrow_function" none (2 + n) (8 + n) [
            .onLine "formal_parameters" (some "parameters") (2 + n) (4 + n) [
              .fixed "(" (2 + n) (3 + n),
              .fixed ")" (3 + n) (4 + n)],
            .fixed "=>" (4 + n) (6 + n),
            .onLine "statement_block" (some "body") (6 + n) (8 + n) [
              .fixed "\x7b" (6 + n) (7 + n),
              .fixed "\x7d" (7 + n) (8 + n)]],
          .fixed ")" (8 + n) (9 + n)])]]]

/-- With comments wherever a grammar has them the functions are not always the same: behind a
comment, the first argument of a call is not told. -/
theorem argument_lost_behind_comment : ¬ ∀ (source source' : SourceText) (t t' : SyntaxTree),
    t.outline source "" = t'.outline source' "" →
    t.commentsFit (fun _ _ => true) = true → t'.commentsFit (fun _ _ => true) = true →
    (ofTree source' t').functions.map FunctionInfo.content =
        (ofTree source t).functions.map FunctionInfo.content ∧
      (ofTree source' t').calls.map CallSite.ends = (ofTree source t).calls.map CallSite.ends ∧
      (ofTree source' t').imports = (ofTree source t).imports ∧
      (ofTree source' t').exports = (ofTree source t).exports := by
  intro h
  have hlength := congrArg List.length (h (.ofString "g(()=>{})") (.ofString "g(/**/()=>{})")
    (firstArgument [] 0) (firstArgument [.onLine "comment" none 2 6 []] 4) (by decide +kernel)
    (by decide +kernel) (by decide +kernel)).1
  unfold ofTree at hlength
  simp only [FunctionInfo.listOf_eq_filterMap] at hlength
  revert hlength
  decide +kernel

end SourceAnalysis

end CallAtlas
