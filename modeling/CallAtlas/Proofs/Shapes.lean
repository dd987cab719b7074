import CallAtlas.Proofs.Resemblance

/-!
# Two shapes of a tree

The grammars with types put a node around each parameter and have their own kind of
node for the fields of classes. `SyntaxTree.untyped` takes a tree of a text without types
from the shape that these grammars give it to the shape of the grammar that has no types:
a parameter is its pattern, or a pattern with a default, and a field has its name under
another field of the node. A text without types is known by its tree (`SyntaxTree.plain`).

The node around a pattern is all that is lost. Every other node stays, and the same is
asked and answered there (`SyntaxTree.reshaped_resemblance`); the parameters of a
function are the same.
-/

namespace CallAtlas

namespace SyntaxTree

/-! ## The other shape -/

/-- A node under another field. -/
def under (field : Option String) : SyntaxTree → SyntaxTree
  | node i cs => node { i with field } cs

/-- The kind of a node in the grammar without types. -/
def untypedKind (kind : String) : String :=
  if kind = "public_field_definition" then "field_definition"
  else if kind = "required_parameter" then "assignment_pattern"
  else kind

/-- The field of a child in the grammar without types, below a node of some kind. -/
def untypedField (parent field : String) : String :=
  if parent = "public_field_definition" && field = "name" then "property"
  else if parent = "required_parameter" && field = "pattern" then "left"
  else if parent = "required_parameter" && field = "value" then "right"
  else field

/-- A child under its field in the grammar without types. -/
def relabel (parent : String) (c : SyntaxTree) : SyntaxTree :=
  c.under (c.info.field.map (untypedField parent))

/-- The pattern of a parameter that is no more than its pattern. -/
def barePattern? (i : NodeInfo) (cs : List SyntaxTree) : Option SyntaxTree :=
  match cs with
  | [pattern] => if i.kind = "required_parameter" then some pattern else none
  | _ => none

/-- Whether a node is a parameter that is no more than its pattern. -/
def isWrapper (t : SyntaxTree) : Bool := (barePattern? t.info t.children).isSome

/-- A node over children in the shape of the grammar without types. -/
def untypedNode (i : NodeInfo) (cs : List SyntaxTree) : SyntaxTree :=
  match barePattern? i cs with
  | some pattern => pattern.under i.field
  | none => node { i with kind := untypedKind i.kind } (cs.map (relabel i.kind))

mutual

/-- A tree in the shape of the grammar without types. -/
def untyped (t : SyntaxTree) : SyntaxTree :=
  match t with
  | node i cs => untypedNode i (untypedIn cs)

def untypedIn (cs : List SyntaxTree) : List SyntaxTree :=
  match cs with
  | [] => []
  | c :: rest => untyped c :: untypedIn rest

end

/-- The children of a parameter without a type: a pattern, and a default unless it takes
all that is left. -/
def plainParameter (i : NodeInfo) (cs : List SyntaxTree) : Bool :=
  match cs with
  | [] => false
  | pattern :: rest =>
    pattern.isUnder "pattern" && pattern.info.named && Place.bare.contains pattern.kind &&
      if rest.isEmpty then pattern.info.stopPoint == i.stopPoint
      else pattern.kind != "rest_pattern" && rest.any (isUnder "value") &&
        rest.all fun c => c.info.field.isNone || c.isUnder "value"

/-- Whether a node below a node of some kind fits a text without types, in a tree of a
grammar with types: parameters stand in their lists and have no types, functions have
lists of parameters and no return types, and no pattern of a parameter declares a variable. -/
def plainNode (parent : String) (i : NodeInfo) (cs : List SyntaxTree) : Bool :=
  (if i.kind = "required_parameter" then
      parent == "formal_parameters" && i.named && i.field.isNone && plainParameter i cs
    else parent != "formal_parameters" || !i.named || i.kind == "comment" ||
      i.kind == "html_comment") &&
    (i.kind != "variable_declarator" || !Place.bare.contains parent) &&
    cs.all fun c => !c.isUnder "return_type" &&
      (!c.isUnder "parameters" || c.kind == "formal_parameters")

mutual

/-- Whether a tree below a node of some kind is that of a text without types. -/
def plain (parent : String) (t : SyntaxTree) : Bool :=
  match t with
  | node i cs => plainNode parent i cs && plainIn i.kind cs

def plainIn (parent : String) (cs : List SyntaxTree) : Bool :=
  match cs with
  | [] => true
  | c :: rest => plain parent c && plainIn parent rest

end

/-! ## Nodes -/

/-- The trees below a node are reshaped one by one. -/
theorem untypedIn_eq (cs : List SyntaxTree) : untypedIn cs = cs.map untyped := by
  induction cs with
  | nil => rfl
  | cons c rest ih => rw [untypedIn, List.map_cons, ih]

/-- A tree is that of a text without types if its node fits one and the trees below it are
such. -/
theorem plain_iff {parent : String} {t : SyntaxTree} : t.plain parent = true ↔
    plainNode parent t.info t.children = true ∧ ∀ c ∈ t.children, c.plain t.kind = true := by
  obtain ⟨i, cs⟩ := t
  have hall : plainIn i.kind cs = true ↔ ∀ c ∈ cs, c.plain i.kind = true := by
    induction cs with
    | nil => simp [plainIn]
    | cons c rest ih => rw [plainIn, Bool.and_eq_true, ih, List.forall_mem_cons]
  rw [plain, Bool.and_eq_true, hall]
  rfl

theorem barePattern?_map (i : NodeInfo) (cs : List SyntaxTree) (f : SyntaxTree → SyntaxTree) :
    barePattern? i (cs.map f) = (barePattern? i cs).map f := by
  cases cs with
  | nil => rfl
  | cons c rest =>
    cases rest with
    | nil =>
      simp only [List.map_cons, List.map_nil, barePattern?]
      split <;> rfl
    | cons d rest => rfl

/-- What is no more than its pattern is a parameter with one child. -/
theorem barePattern?_eq_some {i : NodeInfo} {cs : List SyntaxTree} {pattern : SyntaxTree} :
    barePattern? i cs = some pattern ↔ i.kind = "required_parameter" ∧ cs = [pattern] := by
  cases cs with
  | nil => simp [barePattern?]
  | cons c rest => cases rest <;> simp [barePattern?]

/-- All nodes but the ones around patterns stay nodes, with their extents. -/
theorem untyped_of_not_wrapper {t : SyntaxTree} (h : t.isWrapper = false) :
    t.untyped = node { t.info with kind := untypedKind t.kind }
      (t.children.map fun c => relabel t.kind c.untyped) := by
  obtain ⟨i, cs⟩ := t
  have hnone : barePattern? i cs = none := Option.isSome_eq_false_iff.mp h |> Option.isNone_iff_eq_none.mp
  rw [untyped, untypedNode, untypedIn_eq, barePattern?_map, hnone, List.map_map]
  rfl

/-- A node around a pattern becomes the pattern, under the field of the node. -/
theorem untyped_of_wrapper {t pattern : SyntaxTree} (hkind : t.kind = "required_parameter")
    (hchildren : t.children = [pattern]) :
    t.untyped = pattern.untyped.under t.info.field := by
  obtain ⟨i, cs⟩ := t
  have hsome : barePattern? i cs = some pattern := barePattern?_eq_some.mpr ⟨hkind, hchildren⟩
  rw [untyped, untypedNode, untypedIn_eq, barePattern?_map, hsome]
  rfl

/-- Only parameters stand around patterns. -/
theorem not_wrapper_of_kind {t : SyntaxTree} (h : t.kind ≠ "required_parameter") :
    t.isWrapper = false := by
  cases hwrapper : t.isWrapper with
  | false => rfl
  | true =>
    obtain ⟨pattern, hpattern⟩ := Option.isSome_iff_exists.mp hwrapper
    exact absurd (barePattern?_eq_some.mp hpattern).1 h

@[simp] theorem under_info (t : SyntaxTree) (field : Option String) :
    (t.under field).info = { t.info with field } := by
  cases t
  rfl

@[simp] theorem under_kind (t : SyntaxTree) (field : Option String) :
    (t.under field).kind = t.kind := by
  cases t
  rfl

@[simp] theorem under_children (t : SyntaxTree) (field : Option String) :
    (t.under field).children = t.children := by
  cases t
  rfl

theorem under_self (t : SyntaxTree) : t.under t.info.field = t := by
  cases t
  rfl

/-- The last field counts. -/
theorem under_under (t : SyntaxTree) (field field' : Option String) :
    (t.under field).under field' = t.under field' := by
  cases t
  rfl

/-! ### Parameters -/

/-- Parameters stand in lists of parameters. -/
theorem parent_of_parameter {parent : String} {t : SyntaxTree} (h : t.plain parent = true)
    (hkind : t.kind = "required_parameter") : parent = "formal_parameters" ∧
      t.info.named = true ∧ t.info.field = none ∧ plainParameter t.info t.children = true := by
  have hnode := (plain_iff.mp h).1
  have hkind : t.info.kind = "required_parameter" := hkind
  simp only [plainNode, if_pos hkind, Bool.and_eq_true, beq_iff_eq, Option.isNone_iff_eq_none] at hnode
  obtain ⟨⟨⟨⟨⟨hparent, hnamed⟩, hfield⟩, hparameter⟩, -⟩, -⟩ := hnode
  exact ⟨hparent, hnamed, hfield, hparameter⟩

/-- In a list of parameters stand parameters, besides comments and fixed texts. -/
theorem kind_of_counted {t : SyntaxTree} (h : t.plain "formal_parameters" = true)
    (hnamed : t.info.named = true) (hcomment : t.kind ≠ "comment") :
    t.kind = "required_parameter" ∨ t.kind = "html_comment" := by
  have hnode := (plain_iff.mp h).1
  have hcomment : t.info.kind ≠ "comment" := hcomment
  show t.info.kind = "required_parameter" ∨ t.info.kind = "html_comment"
  by_cases hkind : t.info.kind = "required_parameter"
  · exact .inl hkind
  · rw [plainNode, if_neg hkind] at hnode
    simp only [Bool.and_eq_true, Bool.or_eq_true] at hnode
    obtain ⟨⟨((helsewhere | hfixed) | hcommented) | hhtml, -⟩, -⟩ := hnode
    · exact absurd helsewhere (by decide)
    · rw [hnamed] at hfixed
      exact absurd hfixed (by decide)
    · exact absurd (beq_iff_eq.mp hcommented) hcomment
    · exact .inr (beq_iff_eq.mp hhtml)

/-- A node around a pattern, and the pattern. -/
structure Wraps (t pattern : SyntaxTree) : Prop where
  kind : t.kind = "required_parameter"
  children : t.children = [pattern]
  named : t.info.named = true
  field : t.info.field = none
  under : pattern.isUnder "pattern" = true
  patternNamed : pattern.info.named = true
  bare : Place.bare.contains pattern.kind = true
  stopPoint : pattern.info.stopPoint = t.info.stopPoint
  plain : pattern.plain "required_parameter" = true

/-- In a text without types, a node around a pattern stands in a list of parameters, and says
nothing but what the pattern says. -/
theorem wraps_of_wrapper {parent : String} {t : SyntaxTree} (h : t.plain parent = true)
    (hwrapper : t.isWrapper = true) : parent = "formal_parameters" ∧ ∃ pattern, Wraps t pattern := by
  obtain ⟨pattern, hpattern⟩ := Option.isSome_iff_exists.mp hwrapper
  obtain ⟨hkind, hchildren⟩ := barePattern?_eq_some.mp hpattern
  obtain ⟨hparent, hnamed, hfield, hparameter⟩ := parent_of_parameter h hkind
  have hplain : pattern.plain t.kind = true :=
    (plain_iff.mp h).2 pattern (by rw [hchildren]; exact List.mem_cons_self ..)
  rw [hchildren] at hparameter
  simp only [plainParameter, List.isEmpty_nil, if_true, Bool.and_eq_true, beq_iff_eq] at hparameter
  obtain ⟨⟨⟨hunder, hpatternNamed⟩, hbare⟩, hstop⟩ := hparameter
  exact ⟨hparent, pattern, hkind, hchildren, hnamed, hfield, hunder, hpatternNamed, hbare, hstop,
    by rwa [show t.kind = "required_parameter" from hkind] at hplain⟩

/-- A pattern of a parameter is no parameter itself and keeps its kind. -/
theorem untypedKind_of_bare {kind : String} (h : Place.bare.contains kind = true) :
    kind ≠ "required_parameter" ∧ untypedKind kind = kind := by
  have hbare : ∀ k ∈ Place.bare, k ≠ "required_parameter" ∧ untypedKind k = k := by decide
  exact hbare kind (List.contains_iff_mem.mp h)

/-- Such a node is reshaped into its pattern, which keeps its kind. -/
theorem Wraps.untyped_eq {t pattern : SyntaxTree} (h : Wraps t pattern) :
    pattern.isWrapper = false ∧ untypedKind pattern.kind = pattern.kind ∧
      t.untyped = pattern.untyped.under none := by
  obtain ⟨hkind, hsame⟩ := untypedKind_of_bare h.bare
  exact ⟨not_wrapper_of_kind hkind, hsame, by rw [untyped_of_wrapper h.kind h.children, h.field]⟩

/-! ### What stays -/

/-- A tree that is reshaped stands under the same field. -/
theorem untyped_field (t : SyntaxTree) : t.untyped.info.field = t.info.field := by
  cases hwrapper : t.isWrapper with
  | false => rw [untyped_of_not_wrapper hwrapper]; rfl
  | true =>
    obtain ⟨pattern, hpattern⟩ := Option.isSome_iff_exists.mp hwrapper
    obtain ⟨hkind, hchildren⟩ := barePattern?_eq_some.mp hpattern
    rw [untyped_of_wrapper hkind hchildren, under_info]

/-- A child stands under a new field just if it stood under the old one, provided that no two
fields become one. -/
theorem isUnder_relabel {parent field field' : String} {t : SyntaxTree}
    (h : ∀ f ∈ t.info.field, untypedField parent f = field' ↔ f = field) :
    (relabel parent t.untyped).isUnder field' = t.isUnder field := by
  rw [isUnder, isUnder, relabel, under_info, untyped_field]
  cases hf : t.info.field with
  | none => rfl
  | some f =>
    rw [Option.map_some, Bool.eq_iff_iff]
    simpa using h f hf

/-- Nodes stay named or not, and end where they did. -/
theorem untyped_info {parent : String} {t : SyntaxTree} (h : t.plain parent = true) :
    t.untyped.info.named = t.info.named ∧ t.untyped.info.stopPoint = t.info.stopPoint := by
  cases hwrapper : t.isWrapper with
  | false => rw [untyped_of_not_wrapper hwrapper]; exact ⟨rfl, rfl⟩
  | true =>
    obtain ⟨-, pattern, hwraps⟩ := wraps_of_wrapper h hwrapper
    obtain ⟨hpattern, -, huntyped⟩ := hwraps.untyped_eq
    rw [huntyped, under_info, untyped_of_not_wrapper hpattern]
    exact ⟨hwraps.patternNamed.trans hwraps.named.symm, hwraps.stopPoint⟩

/-- The kind in the other shape stands for the same thing. -/
theorem interchangeable_untypedKind (kind : String) : Interchangeable kind (untypedKind kind) := by
  rw [untypedKind]
  split
  · next hkind => exact .inr (.inl ⟨hkind, rfl⟩)
  · split
    · next hkind => exact .inr (.inr ⟨hkind, rfl⟩)
    · exact .inl rfl

/-- Nodes of all kinds but those of parameters, patterns and fields keep their kinds. -/
theorem untyped_kind_iff {parent kind : String} {t : SyntaxTree} (h : t.plain parent = true)
    (hk : kind ∉ Interchangeable.changing) (hbare : kind ∉ Place.bare) :
    t.untyped.kind = kind ↔ t.kind = kind := by
  cases hwrapper : t.isWrapper with
  | false =>
    rw [untyped_of_not_wrapper hwrapper]
    exact (interchangeable_untypedKind t.kind).eq_iff hk
  | true =>
    obtain ⟨-, pattern, hwraps⟩ := wraps_of_wrapper h hwrapper
    obtain ⟨hpattern, hsame, huntyped⟩ := hwraps.untyped_eq
    have hpatternKind : t.untyped.kind = pattern.kind := by
      rw [huntyped, under_kind, untyped_of_not_wrapper hpattern]
      exact hsame
    constructor
    · rintro rfl
      exact absurd (List.contains_iff_mem.mp (hpatternKind ▸ hwraps.bare)) hbare
    · rintro rfl
      exact absurd (hwraps.kind ▸ by decide) hk

/-! ## Trees in both shapes -/

/-- A node of a text without types, and the node in the other shape, under whichever field. -/
structure Reshaped (t t' : SyntaxTree) : Prop where
  plain : ∃ parent, t.plain parent = true
  other : t.isWrapper = false
  eq : ∃ field, t' = t.untyped.under field

/-- A pattern without the node around it. -/
theorem Wraps.reshaped {t pattern : SyntaxTree} (h : Wraps t pattern) (parent : String) :
    Reshaped pattern (relabel parent t.untyped) :=
  ⟨⟨_, h.plain⟩, h.untyped_eq.1, _, by rw [relabel, h.untyped_eq.2.2, under_under]⟩

namespace Reshaped

variable {t t' : SyntaxTree} (source : SourceText)

/-- Of a node only its kind and its field are changed. -/
theorem info_eq (h : Reshaped t t') :
    ∃ field, t'.info = { t.info with kind := untypedKind t.kind, field } := by
  obtain ⟨field, rfl⟩ := h.eq
  exact ⟨field, by rw [under_info, untyped_of_not_wrapper h.other]; rfl⟩

theorem kind_eq (h : Reshaped t t') : t'.kind = untypedKind t.kind := by
  obtain ⟨field, hinfo⟩ := h.info_eq
  exact congrArg NodeInfo.kind hinfo

/-- The children are reshaped, each under its new field. -/
theorem children_eq (h : Reshaped t t') :
    t'.children = t.children.map fun c => relabel t.kind c.untyped := by
  obtain ⟨field, rfl⟩ := h.eq
  rw [under_children, untyped_of_not_wrapper h.other]
  rfl

theorem text_eq (h : Reshaped t t') : t'.text source = t.text source := by
  obtain ⟨field, hinfo⟩ := h.info_eq
  rw [text, text, hinfo]

theorem interchangeable (h : Reshaped t t') : Interchangeable t.kind t'.kind := by
  rw [h.kind_eq]
  exact interchangeable_untypedKind t.kind

/-- What is below such a node is of a text without types too. -/
theorem plain_child (h : Reshaped t t') {c : SyntaxTree} (hc : c ∈ t.children) :
    c.plain t.kind = true := by
  obtain ⟨parent, hplain⟩ := h.plain
  exact (plain_iff.mp hplain).2 c hc

/-- No child of such a node is a return type, and parameters stand in a list. -/
theorem child_plain (h : Reshaped t t') {c : SyntaxTree} (hc : c ∈ t.children) :
    c.isUnder "return_type" = false ∧
      (c.isUnder "parameters" = true → c.kind = "formal_parameters") := by
  obtain ⟨parent, hplain⟩ := h.plain
  have hall := (Bool.and_eq_true_iff.mp (plain_iff.mp hplain).1).2
  have hchild := List.all_eq_true.mp hall c hc
  rw [Bool.and_eq_true, Bool.not_eq_true', Bool.or_eq_true, beq_iff_eq] at hchild
  exact ⟨hchild.1, fun hunder => hchild.2.resolve_left (by rw [hunder]; decide)⟩

/-- Parameters stand in a list of parameters. -/
theorem kind_of_list (h : Reshaped t t') {list : SyntaxTree} (hlist : list ∈ t.child? "parameters") :
    list.kind = "formal_parameters" :=
  (h.child_plain (child?_mem hlist)).2 (List.find?_some (Option.mem_def.mp hlist))

theorem no_return_type (h : Reshaped t t') : t.child? "return_type" = none :=
  List.find?_eq_none.mpr fun _ hc => Bool.eq_false_iff.mp (h.child_plain hc).1

/-- Each child has its reshaped one at the same place. -/
theorem children_rel (h : Reshaped t t') :
    List.Forall₂ (fun c c' => c ∈ t.children ∧ c' = relabel t.kind c.untyped)
      t.children t'.children := by
  rw [h.children_eq, List.forall₂_map_right_iff]
  exact List.forall₂_same.mpr fun c hc => ⟨hc, rfl⟩

theorem child (h : Reshaped t t') {c : SyntaxTree} (hc : c ∈ t.children)
    (hother : c.isWrapper = false) : Reshaped c (relabel t.kind c.untyped) :=
  ⟨⟨t.kind, h.plain_child hc⟩, hother, _, rfl⟩

/-- Only in a list of parameters stand nodes around patterns. -/
theorem child_of_kind (h : Reshaped t t') (hkind : t.kind ≠ "formal_parameters")
    {c : SyntaxTree} (hc : c ∈ t.children) : c.isWrapper = false := by
  cases hwrapper : c.isWrapper with
  | false => rfl
  | true => exact absurd (wraps_of_wrapper (h.plain_child hc) hwrapper).1 hkind

/-- The child under a field, and the child under the field that this is in the other
shape. -/
theorem child?_rel (h : Reshaped t t') {field field' : String}
    (hfield : ∀ c ∈ t.children, ∀ f ∈ c.info.field,
      untypedField t.kind f = field' ↔ f = field) :
    Option.Rel Reshaped (t.child? field) (t'.child? field') := by
  have hunder : ∀ c c', c ∈ t.children ∧ c' = relabel t.kind c.untyped →
      c'.isUnder field' = c.isUnder field := by
    rintro c _ ⟨hc, rfl⟩
    exact isUnder_relabel (hfield c hc)
  refine rel_imp (find?_rel_of_forall₂ h.children_rel hunder) fun c hfound _ _ ⟨hc, heq⟩ =>
    heq ▸ h.child hc ?_
  -- a node around a pattern stands under no field
  cases hwrapper : c.isWrapper with
  | false => rfl
  | true =>
    obtain ⟨-, pattern, hwraps⟩ := wraps_of_wrapper (h.plain_child hc) hwrapper
    have hunder : c.isUnder field = true := List.find?_some (Option.mem_def.mp hfound)
    rw [isUnder, hwraps.field] at hunder
    cases hunder

/-- The first named child, where no nodes around patterns stand. -/
theorem first_rel (h : Reshaped t t') (hkind : t.kind ≠ "formal_parameters") :
    Option.Rel Reshaped t.namedChildren.head? t'.namedChildren.head? := by
  rw [namedChildren, namedChildren, List.head?_filter, List.head?_filter]
  refine rel_imp (find?_rel_of_forall₂ h.children_rel ?_) fun c _ _ _ ⟨hc, heq⟩ =>
    heq ▸ h.child hc (h.child_of_kind hkind hc)
  rintro c _ ⟨hc, rfl⟩
  rw [relabel, under_info]
  exact (untyped_info (h.plain_child hc)).1

end Reshaped

/-- Below all nodes but parameters, values stand under the same field. -/
theorem untypedField_value {parent : String} (h : parent ≠ "required_parameter")
    (field : String) : untypedField parent field = "value" ↔ field = "value" := by
  by_cases hname : parent = "public_field_definition" ∧ field = "name"
  · simp [untypedField, hname.1, hname.2]
  · simp [untypedField, hname, h]

/-- Where the kind of a node stays, so do the fields of its children. -/
theorem untypedField_eq {kind : String} (h : untypedKind kind = kind) (field : String) :
    untypedField kind field = field := by
  have hkinds : kind ≠ "public_field_definition" ∧ kind ≠ "required_parameter" := by
    constructor <;> rintro rfl <;> revert h <;> decide
  simp [untypedField, hkinds.1, hkinds.2]

/-- Trees in both shapes answer alike to all that names and calls ask of a node. -/
theorem reshaped_resemblance (source : SourceText) : Resemblance source source Reshaped := by
  have hchild : ∀ {t t' : SyntaxTree}, Reshaped t t' → t'.kind = t.kind →
      ∀ field, Option.Rel Reshaped (t.child? field) (t'.child? field) := fun h hkind field =>
    h.child?_rel fun _ _ f _ => by rw [untypedField_eq (h.kind_eq.symm.trans hkind)]
  exact {
    kind := fun h => h.interchangeable
    child := hchild
    text := fun h _ => h.text_eq source
    textUnder := fun h hkind field _ =>
      map_eq_of_rel (hchild h hkind field) fun _ _ _ _ hc => hc.text_eq source
    first := fun h hkind => h.first_rel (by rw [hkind]; decide) }

end SyntaxTree

/-! ## Parameters -/

namespace Parameter

open SyntaxTree (Reshaped Wraps relabel isUnder plainParameter)

variable {t t' : SyntaxTree} (source : SourceText)

theorem defaultOf_reshaped (h : Reshaped t t') : defaultOf source t' = defaultOf source t := by
  unfold defaultOf
  rw [h.text_eq, h.interchangeable.test_eq plainDefaults.contains (by decide) (by decide)]
  exact ite_congr rfl (fun _ => rfl) fun _ =>
    h.interchangeable.ite_eq (by decide) (fun _ => rfl) fun _ => rfl

theorem restName_reshaped (h : Reshaped t t') (hkind : t.kind = "rest_pattern") (index : Nat) :
    restName source index t' = restName source index t := by
  have hfirst := h.first_rel (by rw [hkind]; decide)
  unfold restName
  generalize t.namedChildren.head? = first, t'.namedChildren.head? = first' at hfirst ⊢
  cases hfirst with
  | none => rfl
  | some hc => exact hc.interchangeable.ite_eq (by decide) (fun _ => by rw [hc.text_eq]) fun _ => rfl

/-- A parameter that is no more than its pattern is the parameter that the pattern is. -/
theorem ofTree_wrapper {pattern : SyntaxTree} (h : Wraps t pattern) (parent : String)
    (index : Nat) : ofTree source index (relabel parent t.untyped) = ofTree source index t := by
  have hpattern := h.reshaped parent
  have hkind : (relabel parent t.untyped).kind = pattern.kind :=
    hpattern.kind_eq.trans h.untyped_eq.2.1
  -- without a type and a default all that is told is the name that the pattern gives
  have htyped : ofTyped source index t =
      ((patternName? source index pattern).map named).getD (unnamed index) := by
    have hunder : pattern.info.field = some "pattern" := beq_iff_eq.mp h.under
    have hchild : t.child? "pattern" = some pattern ∧ t.child? "value" = none ∧
        t.child? "type" = none := by
      simp [SyntaxTree.child?, h.children, isUnder, hunder]
    rw [ofTyped, hchild.1, hchild.2.1, hchild.2.2, h.kind, Option.bind_some]
    cases patternName? source index pattern <;> rfl
  have hmem := List.contains_iff_mem.mp h.bare
  simp only [Place.bare, List.mem_cons, List.not_mem_nil, or_false] at hmem
  rw [ofTree, ofTree, hkind, h.kind, htyped, patternName?]
  -- only an identifier and a pattern for all that is left give a name
  rcases hmem with hk | hk | hk | hk | hk <;> rw [hk]
  · simp [hpattern.text_eq]
  · rfl
  · rfl
  · rfl
  · simp [restName_reshaped source hpattern hk]

/-- What a pattern with a default holds. -/
theorem default_parts (hother : t.isWrapper = false) (hkind : t.kind = "required_parameter")
    (hparameter : plainParameter t.info t.children = true) :
    ∃ pattern value, t.child? "pattern" = some pattern ∧ t.child? "value" = some value ∧
      Place.bare.contains pattern.kind = true ∧ pattern.kind ≠ "rest_pattern" ∧
      ∀ c ∈ t.children, ∀ f ∈ c.info.field, f = "pattern" ∨ f = "value" := by
  obtain ⟨i, cs⟩ := t
  cases cs with
  | nil => cases hparameter
  | cons pattern rest =>
    have hrest : rest.isEmpty = false := by
      -- with nothing but a pattern in it the node would be one around a pattern
      cases rest with
      | nil =>
        have hwrapper : (SyntaxTree.node i [pattern]).isWrapper = true :=
          Option.isSome_iff_exists.mpr
            ⟨pattern, SyntaxTree.barePattern?_eq_some.mpr ⟨hkind, rfl⟩⟩
        exact absurd hwrapper (Bool.eq_false_iff.mp hother)
      | cons c rest => rfl
    simp only [SyntaxTree.children, plainParameter, hrest, Bool.false_eq_true, if_false,
      Bool.and_eq_true, bne_iff_ne, List.all_eq_true, List.any_eq_true, Bool.or_eq_true,
      Option.isNone_iff_eq_none] at hparameter
    obtain ⟨⟨⟨hunder, -⟩, hbare⟩, ⟨hnotRest, hvalue⟩, hfields⟩ := hparameter
    have hpattern : pattern.info.field = some "pattern" := beq_iff_eq.mp hunder
    obtain ⟨value, hfound⟩ := Option.isSome_iff_exists.mp (List.find?_isSome.mpr hvalue)
    refine ⟨pattern, value, List.find?_cons_of_pos hunder, ?_, hbare, hnotRest, ?_⟩
    · rw [← hfound]
      exact List.find?_cons_of_neg (by rw [isUnder, hpattern]; decide)
    · intro c hc f hf
      rcases List.mem_cons.mp hc with rfl | hc
      · exact .inl (Option.some.inj (hf.symm.trans hpattern))
      · rcases hfields c hc with hnone | hvalue
        · cases hf.symm.trans hnone
        · exact .inr (Option.some.inj (hf.symm.trans (beq_iff_eq.mp hvalue)))

/-- A parameter with a default is a pattern with a default. -/
theorem ofTree_default (h : Reshaped t t') (hkind : t.kind = "required_parameter")
    (hparameter : plainParameter t.info t.children = true) (index : Nat) :
    ofTree source index t' = ofTree source index t := by
  have hkind' : t'.kind = "assignment_pattern" := by rw [h.kind_eq, hkind]; rfl
  obtain ⟨pattern, value, hpattern, hvalue, hbare, hnotRest, hfields⟩ :=
    default_parts h.other hkind hparameter
  have hleft : Option.Rel Reshaped (t.child? "pattern") (t'.child? "left") :=
    h.child?_rel fun c hc f hf => by
      rw [hkind]
      rcases hfields c hc f hf with rfl | rfl <;> decide
  have hright : Option.Rel Reshaped (t.child? "value") (t'.child? "right") :=
    h.child?_rel fun c hc f hf => by
      rw [hkind]
      rcases hfields c hc f hf with rfl | rfl <;> decide
  have htype : t.child? "type" = none :=
    List.find?_eq_none.mpr fun c hc hunder => by
      rcases hfields c hc "type" (beq_iff_eq.mp hunder) with heq | heq <;> exact absurd heq (by decide)
  rw [hpattern] at hleft
  rw [hvalue] at hright
  -- one shape reads it as a parameter with a type, the other as an assignment
  have hshape : ofTree source index t' = ofAssignment source index t' ∧
      ofTree source index t = ofTyped source index t := by
    rw [ofTree, ofTree, hkind, hkind']
    exact ⟨rfl, rfl⟩
  rw [hshape.1, hshape.2, ofAssignment, ofTyped, hpattern, hvalue, htype]
  generalize t'.child? "left" = left, t'.child? "right" = right at hleft hright ⊢
  cases hleft with
  | @some _ left hleft =>
    cases hright with
    | @some _ right hright =>
      have hsame : left.kind = pattern.kind :=
        hleft.kind_eq.trans (SyntaxTree.untypedKind_of_bare hbare).2
      by_cases hid : pattern.kind = "identifier"
      · simp [patternName?, hsame, hid, hleft.text_eq, defaultOf_reshaped source hright]
      · have hthis : pattern.kind ≠ "this" := fun heq => by
          rw [heq] at hbare
          exact absurd hbare (by decide)
        simp [patternName?, hsame, hid, hthis, hnotRest]

/-- What is counted in a list of parameters is the same parameter in both shapes. -/
theorem ofTree_counted {c : SyntaxTree} (h : c.plain "formal_parameters" = true)
    (hnamed : c.info.named = true) (hcomment : c.kind ≠ "comment") (parent : String)
    (index : Nat) : ofTree source index (relabel parent c.untyped) = ofTree source index c := by
  cases hwrapper : c.isWrapper with
  | true =>
    obtain ⟨-, pattern, hwraps⟩ := SyntaxTree.wraps_of_wrapper h hwrapper
    exact ofTree_wrapper source hwraps parent index
  | false =>
    have hreshaped : Reshaped c (relabel parent c.untyped) := ⟨⟨_, h⟩, hwrapper, _, rfl⟩
    rcases SyntaxTree.kind_of_counted h hnamed hcomment with hkind | hkind
    · exact ofTree_default source hreshaped hkind
        (SyntaxTree.parent_of_parameter h hkind).2.2.2 index
    · -- a comment of the other kind is counted as a pattern without a name
      rw [ofTree, ofTree, hkind, (hreshaped.interchangeable.eq_iff (by decide)).mpr hkind]
      rfl

/-- What is left out of a list of parameters is left out in both shapes. -/
theorem counted_rel (h : Reshaped t t') :
    List.Forall₂ (fun c c' => c ∈ t.children ∧ c' = relabel t.kind c.untyped)
      (t.namedChildren.filter (·.kind != "comment"))
      (t'.namedChildren.filter (·.kind != "comment")) := by
  refine List.rel_filter ?_ (List.rel_filter ?_ h.children_rel)
  · rintro c _ ⟨hc, rfl⟩
    have hiff : c.untyped.kind = "comment" ↔ c.kind = "comment" :=
      SyntaxTree.untyped_kind_iff (h.plain_child hc) (by decide) (by decide)
    simp [relabel, hiff]
  · rintro c _ ⟨hc, rfl⟩
    simp [relabel, (SyntaxTree.untyped_info (h.plain_child hc)).1]

/-- A function has the same parameters in both shapes. -/
theorem listOf_reshaped (h : Reshaped t t') (hkind : Naming.isFunction t.kind = true) :
    listOf source t' = listOf source t := by
  have hT := SyntaxTree.reshaped_resemblance source
  have hkind' : t'.kind = t.kind := hT.kind_eq h (by decide) hkind
  have hparameter : "parameter" ∈ SyntaxTree.toldFields t.kind := by
    rw [SyntaxTree.toldFields, if_pos hkind]
    decide
  rw [listOf_unfold, listOf_unfold, hT.textUnder h hkind' "parameter" hparameter]
  refine congrArg _ (congrArg (Option.getD · []) ?_)
  refine map_eq_of_rel (hT.child h hkind' "parameters") fun list hlist list' _ hlists => ?_
  refine mapIdx_eq_of_forall₂ ((List.forall₂_and_left ..).mpr
    ⟨fun c hc => hc, counted_rel hlists⟩) fun index c _ => ?_
  rintro ⟨hc, hmem, rfl⟩
  obtain ⟨hnamed, hcomment⟩ := List.mem_filter.mp hc
  exact ofTree_counted source (h.kind_of_list hlist ▸ hlists.plain_child hmem)
    (List.mem_filter.mp hnamed).2 (bne_iff_ne.mp hcomment) list.kind index

end Parameter

end CallAtlas
