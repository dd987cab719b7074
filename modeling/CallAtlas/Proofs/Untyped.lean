import CallAtlas.Proofs.NameForms
import CallAtlas.Proofs.Shapes

/-!
# Trees without types

What is told of the functions and calls of a text without types is the same in both
shapes of its tree, with one exception: the name of a field of a class is looked for
where the grammars with types have it. So a function that initializes a field has no
name in the other shape, and what is told of it is lost.

A pattern that has lost the node around it stands in the list of parameters, so the
places of both trees correspond if these nodes are passed over. What documents a function
is found from its anchor, and before that stand the same comments in both shapes.
-/

namespace CallAtlas

/-! ## Places -/

namespace Place

open SyntaxTree (Reshaped Wraps relabel isWrapper)

variable (source : SourceText) {p p' : Place}

/-- The same comments stand before nodes in both shapes, and no pattern of a parameter
declares a variable. -/
structure Flanked (kind : String) (c c' : Crumb) : Prop where
  comments : ∀ acc, Documentation.commentsBefore source acc c'.before =
    Documentation.commentsBefore source acc c.before
  declared : kind = "variable_declarator" → bare.contains c.parent.kind = false

/-- Places in trees of both shapes. -/
abbrev ReshapedSeats : Place → Place → Prop := Seated Reshaped (Flanked source)

theorem commentsBefore_relabel {kind parent : String} (bs : List SyntaxTree)
    (h : ∀ b ∈ bs, b.plain parent = true) (acc : List String) :
    Documentation.commentsBefore source acc (bs.map fun b => relabel kind b.untyped) =
      Documentation.commentsBefore source acc bs := by
  induction bs generalizing acc with
  | nil => rfl
  | cons b earlier ih =>
    obtain ⟨hb, hearlier⟩ := List.forall_mem_cons.mp h
    -- what is asked of a sibling is the same in both shapes
    have hdecorator : (relabel kind b.untyped).kind = "decorator" ↔ b.kind = "decorator" := by
      rw [relabel, SyntaxTree.under_kind]
      exact SyntaxTree.untyped_kind_iff hb (by decide) (by decide)
    have hcomment : (relabel kind b.untyped).kind = "comment" ↔ b.kind = "comment" := by
      rw [relabel, SyntaxTree.under_kind]
      exact SyntaxTree.untyped_kind_iff hb (by decide) (by decide)
    have hnamed : (relabel kind b.untyped).info.named = b.info.named := by
      rw [relabel, SyntaxTree.under_info]
      exact (SyntaxTree.untyped_info hb).1
    rw [List.map_cons, Documentation.commentsBefore, Documentation.commentsBefore, hnamed, ih hearlier]
    simp only [hdecorator, hcomment]
    by_cases hkind : b.kind = "comment"
    · -- a comment is no pattern, so it stays where it is
      have hreshaped : Reshaped b (relabel kind b.untyped) :=
        ⟨⟨parent, hb⟩, SyntaxTree.not_wrapper_of_kind (by rw [hkind]; decide), _, rfl⟩
      have htrailing : Documentation.isTrailing (relabel kind b.untyped)
          (earlier.map fun b => relabel kind b.untyped) = Documentation.isTrailing b earlier := by
        obtain ⟨field, hinfo⟩ := hreshaped.info_eq
        cases earlier with
        | nil => rfl
        | cons u rest =>
          have hstop : (relabel kind u.untyped).info.stopPoint = u.info.stopPoint := by
            rw [relabel, SyntaxTree.under_info]
            exact (SyntaxTree.untyped_info (hearlier u (List.mem_cons_self ..))).2
          rw [List.map_cons, Documentation.isTrailing, Documentation.isTrailing, hstop, hinfo]
      rw [htrailing, hreshaped.text_eq, ih hearlier]
    · simp only [hkind, decide_false, Bool.false_and, Bool.false_eq_true, if_false]

section Children

variable (h : Resembles Reshaped (Flanked source) p p')

include h

theorem flanked_child {kind : String} {before : List SyntaxTree}
    (hbefore : ∀ b ∈ before, b ∈ p.tree.children)
    (hdeclared : kind = "variable_declarator" → bare.contains p.kind = false) :
    Flanked source kind ⟨p.tree, before⟩
      ⟨p'.tree, before.map fun b => relabel p.kind b.untyped⟩ :=
  ⟨commentsBefore_relabel source before fun b hb => h.tree.plain_child (hbefore b hb), hdeclared⟩

/-- A child that is no node around a pattern is a child in the other shape. -/
theorem seated_reshaped {c : SyntaxTree} {before : List SyntaxTree} (hc : c ∈ p.tree.children)
    (hbefore : ∀ b ∈ before, b ∈ p.tree.children) (hother : c.isWrapper = false) :
    ReshapedSeats source ⟨c, ⟨p.tree, before⟩ :: p.above⟩
      ⟨relabel p.kind c.untyped,
        ⟨p'.tree, before.map fun b => relabel p.kind b.untyped⟩ :: p'.above⟩ := by
  have htree : Reshaped c (relabel p.kind c.untyped) := h.tree.child hc hother
  have hsiblings : List.Forall₂
      (fun b b' => b ∈ p.tree.children ∧ b' = relabel p.kind b.untyped) before
      (before.map fun b => relabel p.kind b.untyped) :=
    List.forall₂_map_right_iff.mpr (List.forall₂_same.mpr fun b hb => ⟨hbefore b hb, rfl⟩)
  have hnamed : ∀ b b', b ∈ p.tree.children ∧ b' = relabel p.kind b.untyped →
      b'.info.named = b.info.named := by
    rintro b _ ⟨hb, rfl⟩
    rw [relabel, SyntaxTree.under_info]
    exact (SyntaxTree.untyped_info (h.tree.plain_child hb)).1
  refine ⟨⟨htree, .node h.tree (flanked_child source h hbefore fun hkind => ?_) h.above⟩, ?_, ?_⟩
  · have hplain := (SyntaxTree.plain_iff.mp (h.tree.plain_child hc)).1
    have hdeclarator := (Bool.and_eq_true_iff.mp (Bool.and_eq_true_iff.mp hplain).1).2
    have hkind : c.info.kind = "variable_declarator" := hkind
    show bare.contains p.tree.kind = false
    simpa [hkind] using hdeclarator
  · intro _ _ _ _
    exact congrArg₂ (· && !·) (hnamed c _ ⟨hc, rfl⟩)
      (any_eq_of_forall₂ hsiblings fun b _ => hnamed b)
  · intro _ q hq hkind
    obtain rfl := Option.some.inj hq
    have hunder : ∀ b b', b ∈ p.tree.children ∧ b' = relabel p.kind b.untyped →
        b'.isUnder "value" = b.isUnder "value" := by
      rintro b _ ⟨-, rfl⟩
      exact SyntaxTree.isUnder_relabel fun f _ => SyntaxTree.untypedField_value hkind f
    exact congrArg₂ (· && !·) (hunder c _ ⟨hc, rfl⟩)
      (any_eq_of_forall₂ hsiblings fun b _ => hunder b)

/-- A pattern stands in the list of the parameters in the other shape. -/
theorem seated_pattern {c pattern : SyntaxTree} {before : List SyntaxTree}
    (hlist : p.kind = "formal_parameters") (hwraps : Wraps c pattern)
    (hbefore : ∀ b ∈ before, b ∈ p.tree.children) :
    ReshapedSeats source ⟨pattern, ⟨c, []⟩ :: ⟨p.tree, before⟩ :: p.above⟩
      ⟨relabel p.kind c.untyped,
        ⟨p'.tree, before.map fun b => relabel p.kind b.untyped⟩ :: p'.above⟩ := by
  have hflanked : Flanked source "required_parameter" ⟨p.tree, before⟩
      ⟨p'.tree, before.map fun b => relabel p.kind b.untyped⟩ :=
    flanked_child source h hbefore fun hkind => absurd hkind (by decide)
  refine ⟨⟨hwraps.reshaped p.kind, .wrapper hwraps.bare hwraps.kind hlist
    (.node h.tree hflanked h.above)⟩, ?_, ?_⟩
  · intro hexpr
    exact absurd hwraps.bare (Bool.eq_false_iff.mp (bare_of_expression hexpr))
  · intro hexpr
    exact absurd hwraps.bare (Bool.eq_false_iff.mp (bare_of_expression hexpr))

/-- With the nodes around patterns passed over, the places below correspond one by one. -/
theorem below_reshaped : List.Forall₂ (ReshapedSeats source) (p.below (·.tree.isWrapper))
    (p'.below fun _ => false) := by
  -- `cs` are the children that are left, `before` those that were met
  have hgo : ∀ (cs before : List SyntaxTree), (∀ c ∈ cs, c ∈ p.tree.children) →
      (∀ b ∈ before, b ∈ p.tree.children) →
      List.Forall₂ (ReshapedSeats source)
        ((children.go p before cs).flatMap fun q => if q.tree.isWrapper then q.children else [q])
        (children.go p' (before.map fun b => relabel p.kind b.untyped)
          (cs.map fun c => relabel p.kind c.untyped)) := by
    intro cs
    induction cs with
    | nil => exact fun _ _ _ => .nil
    | cons c rest ih =>
      intro before hcs hbefore
      obtain ⟨hc, hrest⟩ := List.forall_mem_cons.mp hcs
      have hlater := ih (c :: before) hrest (List.forall_mem_cons.mpr ⟨hc, hbefore⟩)
      rw [children.go, List.flatMap_cons, List.map_cons, children.go]
      cases hwrapper : c.isWrapper with
      | false => exact .cons (seated_reshaped source h hc hbefore hwrapper) hlater
      | true =>
        obtain ⟨hlist, pattern, hwraps⟩ :=
          SyntaxTree.wraps_of_wrapper (h.tree.plain_child hc) hwrapper
        have hpattern : (⟨c, ⟨p.tree, before⟩ :: p.above⟩ : Place).children =
            [⟨pattern, ⟨c, []⟩ :: ⟨p.tree, before⟩ :: p.above⟩] := by
          rw [Place.children, hwraps.children]
          rfl
        rw [if_pos rfl, hpattern]
        exact .cons (seated_pattern source h hlist hwraps hbefore) hlater
  have hall := hgo p.tree.children [] (fun _ hc => hc) fun _ hb => absurd hb List.not_mem_nil
  have hchildren : (p'.below fun _ => false) = children.go p' []
      (p.tree.children.map fun c => relabel p.tree.kind c.untyped) := by
    rw [below, ← h.tree.children_eq]
    exact List.flatMap_singleton' _
  rw [hchildren]
  exact hall

end Children

/-! ### Documentation -/

variable (h : Resembles Reshaped (Flanked source) p p')

include h

theorem commentsBefore_eq (hbare : bare.contains p.kind = false) (acc : List String) :
    Documentation.commentsBefore source acc p'.before =
      Documentation.commentsBefore source acc p.before := by
  obtain ⟨t, above⟩ := p
  obtain ⟨t', above'⟩ := p'
  cases h.above with
  | root => rfl
  | node _ hcrumb => exact hcrumb.comments acc
  | wrapper hpattern => exact absurd hpattern (Bool.eq_false_iff.mp hbare)

theorem withExport_rel (hbare : bare.contains p.kind = false) :
    Resembles Reshaped (Flanked source) (Documentation.withExport p) (Documentation.withExport p') ∧
      bare.contains (Documentation.withExport p).kind = false := by
  have hparent := h.parent? hbare
  unfold Documentation.withExport
  generalize p.parent? = q, p'.parent? = q' at hparent ⊢
  cases hparent with
  | none => exact ⟨h, hbare⟩
  | @some q q' hq =>
    have hiff := (hq.kinds (SyntaxTree.reshaped_resemblance source)).eq_iff
      (show "export_statement" ∉ Interchangeable.changing by decide)
    by_cases hkind : q.kind = "export_statement"
    · simp only [hkind, hiff.mpr hkind, if_true]
      exact ⟨hq, by decide⟩
    · simp only [hkind, mt hiff.mp hkind, if_false]
      exact ⟨h, hbare⟩

/-- A declaration of variables is no pattern of a parameter. -/
theorem bare_of_declaration (hkind : p.kind = "variable_declarator") :
    ∀ q ∈ p.parent?, bare.contains q.kind = false := by
  intro q hq
  obtain ⟨t, above⟩ := p
  obtain ⟨t', above'⟩ := p'
  cases h.above with
  | root => cases hq
  | node _ hcrumb =>
    obtain rfl := Option.some.inj hq
    exact hcrumb.declared hkind
  | wrapper hpattern =>
    have hpattern : bare.contains t.kind = true := hpattern
    rw [show t.kind = "variable_declarator" from hkind] at hpattern
    exact absurd hpattern (by decide)

/-- The comments of a function stand before the same statement or member. -/
theorem anchor?_rel (hfunction : Naming.isFunction p.kind = true) :
    Option.Rel (fun q q' => Resembles Reshaped (Flanked source) q q' ∧ bare.contains q.kind = false)
      (Documentation.anchor? p) (Documentation.anchor? p') := by
  have hT := SyntaxTree.reshaped_resemblance source
  have hbare := bare_of_function hfunction
  have hkind : p'.kind = p.kind := hT.kind_eq h.tree (by decide) hfunction
  unfold Documentation.anchor?
  rw [hkind]
  split
  · exact .some (withExport_rel source h hbare)
  split
  · exact .some ⟨h, hbare⟩
  have hparent := h.parent? hbare
  generalize p.parent? = q, p'.parent? = q' at hparent ⊢
  cases hparent with
  | none => exact .none
  | @some q q' hq =>
    -- the kinds that are asked of the parent are none of those that change
    have hkinds := hq.kinds hT
    have hdeclarator := hkinds.eq_iff (show "variable_declarator" ∉ Interchangeable.changing by decide)
    have hpair := hkinds.eq_iff (show "pair" ∉ Interchangeable.changing by decide)
    have hfields : Naming.fields.contains q'.kind = Naming.fields.contains q.kind :=
      hkinds.test_eq Naming.fields.contains (by decide) (by decide)
    simp only [Option.bind_eq_bind, Option.bind_some, Option.pure_def, hdeclarator, hpair, hfields]
    by_cases hvariable : q.kind = "variable_declarator"
    · rw [if_pos hvariable, if_pos hvariable]
      have hdeclaration := hq.parent? (by rw [hvariable]; decide)
      have hpatterns := bare_of_declaration source hq hvariable
      generalize q.parent? = d, q'.parent? = d' at hdeclaration hpatterns ⊢
      cases hdeclaration with
      | none => exact .none
      | some hd => exact .some (withExport_rel source hd (hpatterns _ rfl))
    · rw [if_neg hvariable, if_neg hvariable]
      split
      · next hmember =>
        have hfree : ∀ k ∈ "pair" :: Naming.fields, bare.contains k = false := by decide
        refine .some ⟨hq, hfree q.kind (List.mem_cons.mpr ?_)⟩
        rcases Bool.or_eq_true_iff.mp hmember with hfield | hpair
        · exact .inr (List.contains_iff_mem.mp hfield)
        · exact .inl (of_decide_eq_true hpair)
      · exact .none

/-- The same comments document functions in both shapes. -/
theorem documentation_eq (hfunction : Naming.isFunction p.kind = true) :
    Documentation.at? source p' = Documentation.at? source p := by
  refine bind_eq_of_rel (anchor?_rel source h hfunction) fun q _ q' _ ⟨hq, hbare⟩ => ?_
  rw [commentsBefore_eq source hq hbare]

/-- What is told of a function is the same in both shapes. -/
theorem ofPlace_eq (hfunction : Naming.isFunction p.kind = true) (name : String) :
    FunctionInfo.ofPlace source name p' = FunctionInfo.ofPlace source name p := by
  have hT := SyntaxTree.reshaped_resemblance source
  have hkind : p'.tree.kind = p.tree.kind := hT.kind_eq h.tree (by decide) hfunction
  have hreturn : (p'.tree.child? "return_type").map (TypeExpr.ofAnnotation source) =
      (p.tree.child? "return_type").map (TypeExpr.ofAnnotation source) :=
    map_eq_of_rel (hT.child h.tree hkind "return_type") fun c hc _ _ _ => by
      rw [h.tree.no_return_type] at hc
      cases hc
  have hasync : p'.tree.children.any (·.kind == "async") =
      p.tree.children.any (·.kind == "async") := by
    refine any_eq_of_forall₂ h.tree.children_rel ?_
    rintro c hc _ ⟨-, rfl⟩
    rw [relabel, SyntaxTree.under_kind, Bool.eq_iff_iff, beq_iff_eq, beq_iff_eq]
    exact SyntaxTree.untyped_kind_iff (h.tree.plain_child hc) (by decide) (by decide)
  have hspan : FunctionInfo.spanOf p'.tree = FunctionInfo.spanOf p.tree := by
    obtain ⟨field, hinfo⟩ := h.tree.info_eq
    rw [FunctionInfo.spanOf, FunctionInfo.spanOf, hinfo]
  rw [FunctionInfo.ofPlace, FunctionInfo.ofPlace,
    Parameter.listOf_reshaped source h.tree hfunction, hreturn, hasync, hspan,
    h.exportedAt_eq hT (bare_of_function hfunction), documentation_eq source h hfunction]

omit h

/-! ### Names -/

/-- The name that a function has in the grammar without types: the value of a field of a
class has none. -/
def untypedName? (p : Place) : Option String :=
  if p.initializesField then none else Naming.name? source p

/-- The name of a field stands under another field of the node. -/
theorem child?_name_of_field {t t' : SyntaxTree} (h : Reshaped t t')
    (hkind : t.kind = "public_field_definition") : t'.child? "name" = none := by
  rw [SyntaxTree.child?, h.children_eq, hkind]
  refine List.find?_eq_none.mpr fun c' hc' => ?_
  obtain ⟨c, -, rfl⟩ := List.mem_map.mp hc'
  rw [SyntaxTree.isUnder, relabel, SyntaxTree.under_info]
  cases c.untyped.info.field with
  | none => simp
  | some field => by_cases hname : field = "name" <;> simp [SyntaxTree.untypedField, hname]

/-- The value of a field has no name in the other shape, as no name of the field is found. -/
theorem name?_of_initializer (h : ReshapedSeats source p p') (hinit : p.initializesField = true) :
    Naming.name? source p' = none := by
  have hT := SyntaxTree.reshaped_resemblance source
  rw [initializesField, Bool.and_eq_true, Bool.and_eq_true] at hinit
  obtain ⟨⟨hexpr, -⟩, hfield⟩ := hinit
  have hkind : p'.kind = p.kind := hT.kind_eq h.tree (by decide) hexpr
  have hparent := h.parent? (bare_of_expression hexpr)
  rw [Naming.name?_of_expression source (hkind ▸ hexpr)]
  generalize p.parent? = q, p'.parent? = q' at hparent hfield ⊢
  cases hparent with
  | none => rfl
  | @some q q' hq =>
    have hkind : q.tree.kind = "public_field_definition" := beq_iff_eq.mp hfield
    have hkind' : q'.kind = "field_definition" := by
      rw [Place.kind, hq.tree.kind_eq, hkind]
      rfl
    rw [Option.bind_some, Naming.valueName?, hkind', if_neg (by decide), if_pos (by decide),
      Naming.writtenName?, child?_name_of_field hq.tree hkind]
    exact ite_self none

/-- Functions go by the same name in both shapes, but for the values of fields. -/
theorem name?_reshaped (h : ReshapedSeats source p p') :
    Naming.name? source p' = untypedName? source p := by
  have hT := SyntaxTree.reshaped_resemblance source
  rw [untypedName?]
  by_cases hinit : p.initializesField = true
  · rw [if_pos hinit, name?_of_initializer source h hinit]
  · rw [if_neg hinit]
    exact h.name?_eq hT fun hyes => absurd hyes hinit

theorem root_reshaped {t : SyntaxTree} (h : t.plain "" = true) :
    ReshapedSeats source (.root t) (.root t.untyped) := by
  have hother : t.isWrapper = false := by
    cases hwrapper : t.isWrapper with
    | false => rfl
    | true => exact absurd (SyntaxTree.wraps_of_wrapper h hwrapper).1 (by decide)
  have htree : Reshaped t t.untyped := ⟨⟨"", h⟩, hother, _, t.untyped.under_self.symm⟩
  exact ⟨⟨htree, .root⟩, fun _ _ hq => (nomatch hq), fun _ _ hq => (nomatch hq)⟩

/-- A node around a pattern is no function and no call. -/
theorem kind_of_wrapper (h : p.tree.isWrapper = true) : p.kind = "required_parameter" := by
  obtain ⟨pattern, hpattern⟩ := Option.isSome_iff_exists.mp h
  exact (SyntaxTree.barePattern?_eq_some.mp hpattern).1

theorem untypedName?_of_wrapper (h : p.tree.isWrapper = true) : untypedName? source p = none := by
  rw [untypedName?, name?_of_not_function (by rw [kind_of_wrapper h]; decide)]
  exact ite_self none

end Place

/-! ## What is told -/

variable (source : SourceText) {t : SyntaxTree}

/-- The functions of a tree in the other shape: those that initialize no field. -/
theorem FunctionInfo.listOf_untyped (h : t.plain "" = true) : listOf source t.untyped =
    t.visits.filterMap fun p => (p.untypedName? source).map (ofPlace source · p) := by
  rw [listOf_eq_filterMap]
  have hwalk : (t.untyped.visits.filterMap (at? source)).map id = (t.visits.filterMap fun p =>
      (p.untypedName? source).map (ofPlace source · p)).map id := by
    refine Place.visits_map_eq (fun _ _ hp => Place.below_reshaped source hp.toResembles)
      (fun p hp => ?_) (fun _ hp => absurd hp Bool.false_ne_true) (fun p p' hp => ?_)
      (Place.root_reshaped source h)
    · rw [Place.untypedName?_of_wrapper source hp, Option.map_none]
    · rw [at?, Place.name?_reshaped source hp]
      cases hname : p.untypedName? source with
      | none => simp only [Option.map_none]
      | some name =>
        have hfunction : Naming.isFunction p.kind = true := by
          rw [Place.untypedName?] at hname
          split at hname
          · cases hname
          · exact CallSite.isFunction_of_name? hname
        simp only [Option.map_some, Place.ofPlace_eq source hp.toResembles hfunction]
  rwa [List.map_id, List.map_id] at hwalk

/-- The calls of a tree in the other shape: no function that initializes a field is around
any of them. -/
theorem CallSite.listOf_untyped (h : t.plain "" = true) (known : String → Bool) :
    listOf source known t.untyped =
      t.collect (fun around p => (p.untypedName? source).or around) (at? source known) none [] := by
  rw [listOf_eq_collect]
  have hT := SyntaxTree.reshaped_resemblance source
  have hwalk : ((Place.root t.untyped).collect (enclosing source) (at? source known) none).map id =
      ((Place.root t).collect (fun around p => (p.untypedName? source).or around)
        (at? source known) none).map id := by
    refine Place.collect_map_eq (fun _ _ hp => Place.below_reshaped source hp.toResembles)
      (fun p hp s => ⟨?_, ?_⟩) (fun _ hp => absurd hp Bool.false_ne_true)
      (fun p p' hp s => ?_) (fun p p' hp s => ?_)
      (Place.root_reshaped source h) none
    · rw [Place.untypedName?_of_wrapper source hp, Option.none_or]
    · rw [Place.Resembles.at?_unfold, if_neg (by rw [Place.kind_of_wrapper hp]; decide)]
    · rw [enclosing, Place.name?_reshaped source hp]
    · refine hp.at?_eq hT (fun _ _ => ?_) known s
      obtain ⟨field, hinfo⟩ := hp.tree.info_eq
      rw [hinfo]
  rwa [List.map_id, List.map_id] at hwalk

/-- **A text without types is told alike by the grammars with and without types**, but for
the functions that initialize fields of classes: in the grammar without types they have no
name, so they are not told, and calls in them go by the function around the class. -/
theorem SourceAnalysis.ofTree_untyped (h : t.plain "" = true) :
    (ofTree source t.untyped).functions = (t.visits.filterMap fun p =>
        (p.untypedName? source).map (FunctionInfo.ofPlace source · p)) ∧
      (ofTree source t.untyped).calls =
        t.collect (fun around p => (p.untypedName? source).or around)
          (CallSite.at? source (CallSite.isKnown (ofTree source t.untyped).functions)) none [] ∧
      ((∀ p ∈ t.visits, p.initializesField = true → Naming.name? source p = none) →
        (ofTree source t.untyped).functions = (ofTree source t).functions ∧
          (ofTree source t.untyped).calls = (ofTree source t).calls) := by
  have hfunctions := FunctionInfo.listOf_untyped source h
  have hcalls : ∀ functions, CallSite.among source functions t.untyped =
      t.collect (fun around p => (p.untypedName? source).or around)
        (CallSite.at? source (CallSite.isKnown functions)) none [] := by
    intro functions
    rw [CallSite.among_eq_listOf, CallSite.listOf_untyped source h]
  refine ⟨hfunctions, hcalls _, fun hnone => ?_⟩
  have hname : ∀ p ∈ t.visits, p.untypedName? source = Naming.name? source p := by
    intro p hp
    rw [Place.untypedName?]
    split
    · next hinit => exact (hnone p hp hinit).symm
    · rfl
  have hsame : FunctionInfo.listOf source t.untyped = FunctionInfo.listOf source t := by
    rw [hfunctions, FunctionInfo.listOf_eq_filterMap]
    exact List.filterMap_congr fun p hp => by rw [hname p hp]; rfl
  refine ⟨hsame, ?_⟩
  show CallSite.among source _ _ = CallSite.among source _ _
  rw [hcalls, hsame, CallSite.among_eq_listOf, CallSite.listOf_eq_collect]
  exact Place.collect_congr (Place.root t) (fun p hp s => by rw [hname p hp]; rfl) none

namespace SourceAnalysis

/-- The tree of `function f(a,b=1){f(a)}`. -/
def selfCall : SyntaxTree :=
  .onLine "program" none 0 23 [
    .onLine "function_declaration" none 0 23 [
      .fixed "function" 0 8,
      .onLine "identifier" (some "name") 9 10 [],
      .onLine "formal_parameters" (some "parameters") 10 17 [
        .fixed "(" 10 11,
        .onLine "required_parameter" none 11 12 [.onLine "identifier" (some "pattern") 11 12 []],
        .fixed "," 12 13,
        .onLine "required_parameter" none 13 16 [
          .onLine "identifier" (some "pattern") 13 14 [],
          .fixed "=" 14 15,
          .onLine "number" (some "value") 15 16 []],
        .fixed ")" 16 17],
      .onLine "statement_block" (some "body") 17 23 [
        .fixed "\x7b" 17 18,
        .onLine "expression_statement" none 18 22 [
          .onLine "call_expression" none 18 22 [
            .onLine "identifier" (some "function") 18 19 [],
            .onLine "arguments" (some "arguments") 19 22 [
              .fixed "(" 19 20,
              .onLine "identifier" none 20 21 [],
              .fixed ")" 21 22]]],
        .fixed "\x7d" 22 23]]]

/-- The function with its call is told alike. -/
theorem ofTree_untyped_selfCall : selfCall.plain "" = true ∧
    (ofTree (.ofString "function f(a,b=1){f(a)}") selfCall.untyped).functions =
      (ofTree (.ofString "function f(a,b=1){f(a)}") selfCall).functions ∧
    (ofTree (.ofString "function f(a,b=1){f(a)}") selfCall.untyped).calls =
      (ofTree (.ofString "function f(a,b=1){f(a)}") selfCall).calls :=
  ⟨by decide +kernel, (ofTree_untyped _ (by decide +kernel)).2.2 (by decide +kernel)⟩

/-- The tree of `class A{f=()=>{}}`. -/
def fieldOfClass : SyntaxTree :=
  .onLine "program" none 0 17 [
    .onLine "class_declaration" none 0 17 [
      .fixed "class" 0 5,
      .onLine "type_identifier" (some "name") 6 7 [],
      .onLine "class_body" (some "body") 7 17 [
        .fixed "\x7b" 7 8,
        .onLine "public_field_definition" none 8 16 [
          .onLine "property_identifier" (some "name") 8 9 [],
          .fixed "=" 9 10,
          .onLine "arrow_function" (some "value") 10 16 [
            .onLine "formal_parameters" (some "parameters") 10 12 [
              .fixed "(" 10 11,
              .fixed ")" 11 12],
            .fixed "=>" 12 14,
            .onLine "statement_block" (some "body") 14 16 [
              .fixed "\x7b" 14 15,
              .fixed "\x7d" 15 16]]],
        .fixed "\x7d" 16 17]]]

/-- The function that a field is set to is told with types, and without types it is not. -/
theorem field_lost_untyped : ¬ ∀ (source : SourceText) (t : SyntaxTree), t.plain "" = true →
    (ofTree source t.untyped).functions = (ofTree source t).functions ∧
      (ofTree source t.untyped).calls = (ofTree source t).calls := by
  intro h
  have hlength := congrArg List.length
    (h (.ofString "class A{f=()=>{}}") fieldOfClass (by decide +kernel)).1
  unfold ofTree at hlength
  simp only [FunctionInfo.listOf_eq_filterMap] at hlength
  revert hlength
  decide +kernel

end SourceAnalysis

end CallAtlas
