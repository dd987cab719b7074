import CallAtlas.Proofs.ReportTotals

/-!
# Trees that resemble each other

Two trees can differ and yet tell the same functions and calls. A `Resemblance` is a
relation between trees of two texts that is kept by everything that names, exports and
calls ask of a node: its kind, the children under its fields, the texts that are told
as they are written. A place resembles another (`Place.Resembles`) if the nodes do and
the ways up from them do. Then both have the same name and the same target
(`Resembles.name?_eq`, `Resembles.callee?_eq`), and a walk through one tree collects
what a walk through the other does (`Place.collect_map_eq`).

Two differences of grammars are allowed for: kinds that stand for one another
(`Interchangeable`), and a parameter that has a node around its pattern in the first
tree and none in the second (`Place.Above.wrapper`).
-/

namespace CallAtlas

variable {source source' : SourceText} {T : SyntaxTree → SyntaxTree → Prop}

section Correspondence

/-! ## Options -/

variable {α α' β : Type} {R : α → α' → Prop} {o : Option α} {o' : Option α'}

/-- Related options go on to the same if what is related does. -/
theorem bind_eq_of_rel (h : Option.Rel R o o') {f : α → Option β} {f' : α' → Option β}
    (hf : ∀ a ∈ o, ∀ a' ∈ o', R a a' → f' a' = f a) : o'.bind f' = o.bind f := by
  cases h with
  | none => rfl
  | some hr => exact hf _ rfl _ rfl hr

theorem map_eq_of_rel (h : Option.Rel R o o') {f : α → β} {f' : α' → β}
    (hf : ∀ a ∈ o, ∀ a' ∈ o', R a a' → f' a' = f a) : o'.map f' = o.map f := by
  cases h with
  | none => rfl
  | some hr => exact congrArg some (hf _ rfl _ rfl hr)

theorem rel_imp (h : Option.Rel R o o') {R' : α → α' → Prop}
    (hR : ∀ a ∈ o, ∀ a' ∈ o', R a a' → R' a a') : Option.Rel R' o o' := by
  cases h with
  | none => exact .none
  | some hr => exact .some (hR _ rfl _ rfl hr)

theorem bind_eq_of_map_eq {γ : Type} {f : α → γ} {f' : α' → γ} (h : o'.map f' = o.map f)
    {g g' : γ → Option β} (hg : ∀ c, g' c = g c) :
    (o'.bind fun a => g' (f' a)) = o.bind fun a => g (f a) := by
  rw [show (fun a => g' (f' a)) = g' ∘ f' from rfl, ← Option.bind_map, h, funext hg,
    Option.bind_map]
  rfl

/-! ## Lists -/

variable {l : List α} {l' : List α'}

/-- What is found first in two lists is related if the test does not tell related items apart. -/
theorem find?_rel_of_forall₂ (h : List.Forall₂ R l l') {q : α → Bool} {q' : α' → Bool}
    (hq : ∀ a a', R a a' → q' a' = q a) : Option.Rel R (l.find? q) (l'.find? q') := by
  induction h with
  | nil => exact .none
  | @cons a a' l l' ha _ ih =>
    rw [List.find?_cons, List.find?_cons, hq a a' ha]
    cases q a with
    | true => exact .some ha
    | false => exact ih

theorem head?_rel_of_forall₂ (h : List.Forall₂ R l l') : Option.Rel R l.head? l'.head? := by
  cases h with
  | nil => exact .none
  | cons ha _ => exact .some ha

/-- Lists of related items become the same if related items do; so for the ways to go through a
list below. -/
theorem map_eq_of_forall₂ (h : List.Forall₂ R l l') {f : α → β} {f' : α' → β}
    (hf : ∀ a ∈ l, ∀ a', R a a' → f' a' = f a) : l'.map f' = l.map f := by
  induction h with
  | nil => rfl
  | @cons a a' l l' ha _ ih =>
    rw [List.map_cons, List.map_cons, hf a (List.mem_cons_self ..) a' ha,
      ih fun b hb => hf b (List.mem_cons_of_mem _ hb)]

theorem filterMap_eq_of_forall₂ (h : List.Forall₂ R l l') {f : α → Option β} {f' : α' → Option β}
    (hf : ∀ a ∈ l, ∀ a', R a a' → f' a' = f a) : l'.filterMap f' = l.filterMap f := by
  have hmap := congrArg (List.filterMap id) (map_eq_of_forall₂ h hf)
  rwa [List.filterMap_map, List.filterMap_map] at hmap

theorem flatMap_eq_of_forall₂ (h : List.Forall₂ R l l') {f : α → List β} {f' : α' → List β}
    (hf : ∀ a ∈ l, ∀ a', R a a' → f' a' = f a) : l'.flatMap f' = l.flatMap f := by
  rw [List.flatMap_def, List.flatMap_def, map_eq_of_forall₂ h hf]

theorem any_eq_of_forall₂ (h : List.Forall₂ R l l') {q : α → Bool} {q' : α' → Bool}
    (hq : ∀ a ∈ l, ∀ a', R a a' → q' a' = q a) : l'.any q' = l.any q := by
  have hmap := congrArg (List.any · id) (map_eq_of_forall₂ h hq)
  rwa [List.any_map, List.any_map] at hmap

/-- Related items stand at the same places. -/
theorem mapIdx_eq_of_forall₂ (h : List.Forall₂ R l l') : ∀ {f : Nat → α → β} {f' : Nat → α' → β},
    (∀ i a a', R a a' → f' i a' = f i a) → l'.mapIdx f' = l.mapIdx f := by
  induction h with
  | nil => exact fun _ => rfl
  | @cons a a' l l' ha _ ih =>
    intro f f' hf
    rw [List.mapIdx_cons, List.mapIdx_cons, hf 0 a a' ha, ih fun i b b' => hf (i + 1) b b']

/-- Lists that are made into the same have items that are, one by one. -/
theorem forall₂_of_map_eq {f : α → β} {f' : α' → β} : ∀ {l : List α} {l' : List α'},
    l.map f = l'.map f' → (∀ a ∈ l, ∀ a' ∈ l', f a = f' a' → R a a') → List.Forall₂ R l l'
  | [], [], _, _ => .nil
  | [], _ :: _, heq, _ => nomatch heq
  | _ :: _, [], heq, _ => nomatch heq
  | a :: l, a' :: l', heq, hR => by
    obtain ⟨ha, hl⟩ := List.cons.inj heq
    exact .cons (hR a (List.mem_cons_self ..) a' (List.mem_cons_self ..) ha)
      (forall₂_of_map_eq hl fun b hb b' hb' =>
        hR b (List.mem_cons_of_mem _ hb) b' (List.mem_cons_of_mem _ hb'))

end Correspondence

/-! ## Kinds -/

/-- One kind, or the kinds of one thing in the grammars with and without types. -/
def Interchangeable (kind kind' : String) : Prop :=
  kind' = kind ∨ (kind = "public_field_definition" ∧ kind' = "field_definition") ∨
    (kind = "required_parameter" ∧ kind' = "assignment_pattern")

namespace Interchangeable

variable {kind kind' : String}

/-- What does not tell interchangeable kinds apart answers alike. -/
theorem test_eq (h : Interchangeable kind kind') (test : String → Bool)
    (hfield : test "field_definition" = test "public_field_definition")
    (hparameter : test "assignment_pattern" = test "required_parameter") :
    test kind' = test kind := by
  rcases h with rfl | ⟨rfl, rfl⟩ | ⟨rfl, rfl⟩
  · rfl
  · exact hfield
  · exact hparameter

/-- The kinds that have another one beside them. -/
def changing : List String :=
  ["public_field_definition", "field_definition", "required_parameter", "assignment_pattern"]

/-- A kind that is none of the changing ones is the same on both sides. -/
theorem eq_iff (h : Interchangeable kind kind') {k : String} (hk : k ∉ changing) :
    kind' = k ↔ kind = k := by
  rcases h with rfl | ⟨rfl, rfl⟩ | ⟨rfl, rfl⟩
  · rfl
  · exact ⟨fun heq => absurd (heq ▸ by decide) hk, fun heq => absurd (heq ▸ by decide) hk⟩
  · exact ⟨fun heq => absurd (heq ▸ by decide) hk, fun heq => absurd (heq ▸ by decide) hk⟩

/-- A case split on a kind that does not change. -/
theorem ite_eq {α : Type} (h : Interchangeable kind kind') {k : String} (hk : k ∉ changing)
    {a a' b b' : α} (ha : kind = k → a' = a) (hb : kind ≠ k → b' = b) :
    (if kind' = k then a' else b') = if kind = k then a else b := by
  by_cases hkind : kind = k
  · rw [if_pos hkind, if_pos ((h.eq_iff hk).mpr hkind), ha hkind]
  · rw [if_neg hkind, if_neg (mt (h.eq_iff hk).mp hkind), hb hkind]

/-- What answers to a test that excludes the kinds that change has one kind. -/
theorem eq_of_test (h : Interchangeable kind kind') {test : String → Bool}
    (htest : ∀ k ∈ changing, test k = false) (hkind : test kind = true) : kind' = kind :=
  (h.eq_iff fun hchanging => absurd hkind (Bool.eq_false_iff.mp (htest kind hchanging))).mpr rfl

end Interchangeable

/-! ## Trees -/

namespace SyntaxTree

/-- A node among some has no more nodes than all of them. -/
theorem nodeCount_of_mem {c : SyntaxTree} : ∀ {cs : List SyntaxTree}, c ∈ cs →
    c.nodeCount ≤ nodeCountIn cs
  | d :: rest, h => by
    rw [nodeCountIn]
    rcases List.mem_cons.mp h with rfl | h
    · exact Nat.le_add_right _ _
    · exact Nat.le_trans (nodeCount_of_mem h) (Nat.le_add_left _ _)

/-- What holds of a tree when it holds of the children holds of every tree. -/
theorem childInduction {motive : SyntaxTree → Prop}
    (step : ∀ t, (∀ c ∈ t.children, motive c) → motive t) (t : SyntaxTree) : motive t :=
  step t fun c hc =>
    have : c.nodeCount < t.nodeCount := by
      rw [nodeCount_eq t]
      exact Nat.lt_succ_of_le (nodeCount_of_mem hc)
    childInduction step c
termination_by t.nodeCount

theorem child?_mem {t c : SyntaxTree} {field : String} (h : t.child? field = some c) :
    c ∈ t.children := List.mem_of_find?_eq_some h

/-- Kinds of nodes whose texts are told wherever they stand. -/
def toldKinds : List String :=
  Naming.pathHeads ++ Naming.attributeNames ++ TypeExpr.names ++ TypeExpr.literals ++
    Parameter.plainDefaults ++ ["string"]

/-- The fields of a node under which the text is told whatever stands there. -/
def toldFields (kind : String) : List String :=
  if Naming.isFunction kind then ["name", "parameter"]
  else if (Naming.classes ++ Naming.fields ++ Naming.elements).contains kind then ["name"]
  else if kind = "generic_type" then ["name"]
  else if kind = "pair" then ["key"]
  else if kind = "member_expression" then ["property"]
  else if kind = "export_specifier" then ["alias", "name"]
  else if kind = "import_statement" then ["source"]
  else []

/-- A declaration is a function. -/
theorem isFunction_of_declaration {kind : String} (h : Naming.isDeclaration kind = true) :
    Naming.isFunction kind = true := by
  rw [Naming.isFunction, h, Bool.true_or, Bool.true_or]

/-- The text of the name of a function is told. -/
theorem name_told_of_function {kind : String} (h : Naming.isFunction kind = true) :
    "name" ∈ toldFields kind := by
  rw [toldFields, if_pos h]
  exact List.mem_cons_self ..

theorem name_told_of_owner {kind : String}
    (h : (Naming.classes ++ Naming.fields ++ Naming.elements).contains kind = true) :
    "name" ∈ toldFields kind := by
  by_cases hfunction : Naming.isFunction kind = true
  · exact name_told_of_function hfunction
  · rw [toldFields, if_neg hfunction, if_pos h]
    exact List.mem_cons_self ..

/-- A relation that is kept by what names, exports and calls ask of a node. -/
structure Resemblance (source source' : SourceText) (T : SyntaxTree → SyntaxTree → Prop) :
    Prop where
  kind {t t' : SyntaxTree} : T t t' → Interchangeable t.kind t'.kind
  child {t t' : SyntaxTree} : T t t' → t'.kind = t.kind →
    ∀ field, Option.Rel T (t.child? field) (t'.child? field)
  text {t t' : SyntaxTree} : T t t' → t.kind ∈ toldKinds → t'.text source' = t.text source
  textUnder {t t' : SyntaxTree} : T t t' → t'.kind = t.kind → ∀ field ∈ toldFields t.kind,
    (t'.child? field).map (·.text source') = (t.child? field).map (·.text source)
  /-- The first node of an attribute is its name. -/
  first {t t' : SyntaxTree} : T t t' → t.kind = "jsx_attribute" →
    Option.Rel T t.namedChildren.head? t'.namedChildren.head?

namespace Resemblance

variable (hT : Resemblance source source' T) {t t' : SyntaxTree}

include hT

/-- Nodes that resemble each other have one kind, if a test passes that kind and none of the
changing ones. -/
theorem kind_eq (ht : T t t') {test : String → Bool}
    (htest : ∀ k ∈ Interchangeable.changing, test k = false) (hkind : test t.kind = true) :
    t'.kind = t.kind := (hT.kind ht).eq_of_test htest hkind

theorem kind_iff (ht : T t t') {k : String} (hk : k ∉ Interchangeable.changing) :
    t'.kind = k ↔ t.kind = k := (hT.kind ht).eq_iff hk

/-! ### Names that a node gives -/

/-- Under a field whose text is told, both nodes have the same text or none. -/
theorem under_eq (ht : T t t') (hkind : t'.kind = t.kind) {field : String}
    (hfield : field ∈ toldFields t.kind) :
    (t'.child? field).bind (Naming.textOf? source') =
      (t.child? field).bind (Naming.textOf? source) :=
  bind_eq_of_map_eq (hT.textUnder ht hkind field hfield)
    (g := fun text => if text.isEmpty then none else some text) fun _ => rfl

/-- The name that is written at a node is the same in both trees. -/
theorem writtenName?_eq (ht : T t t') (hkind : t'.kind = t.kind)
    (hname : "name" ∈ toldFields t.kind) :
    Naming.writtenName? source' t' = Naming.writtenName? source t := hT.under_eq ht hkind hname

theorem identifier?_eq (ht : T t t') :
    Naming.identifier? source' t' = Naming.identifier? source t := by
  unfold Naming.identifier?
  refine (hT.kind ht).ite_eq (by decide) (fun hkind => ?_) fun _ => rfl
  rw [hT.text ht (hkind ▸ by decide)]

/-- The name that a node binds is the same in both trees, as the text of the node that stands for
it. -/
theorem boundName?_eq (ht : T t t') (hkind : t'.kind = t.kind) :
    Naming.boundName? source' t' = Naming.boundName? source t :=
  bind_eq_of_rel (hT.child ht hkind "name") fun _ _ _ _ hc => hT.identifier?_eq hc

/-! ### Targets of calls -/

omit hT in
theorem objectParts_eq (source : SourceText) (tail : List String) (cs : List SyntaxTree) :
    Naming.objectParts source tail cs =
      ((cs.find? (isUnder "object")).map (Naming.pathParts source tail)).getD (some tail) := by
  induction cs with
  | nil => rfl
  | cons c rest ih =>
    rw [Naming.objectParts, List.find?_cons]
    cases hc : c.isUnder "object" with
    | true => rfl
    | false => exact ih

omit hT in
/-- A path begins at a name or what stands for one. -/
theorem pathParts_of_head {t : SyntaxTree} (h : Naming.pathHeads.contains t.kind = true)
    (tail : List String) : Naming.pathParts source tail t = some (t.text source :: tail) := by
  obtain ⟨i, cs⟩ := t
  rw [Naming.pathParts]
  exact if_pos h

omit hT in
/-- A member adds its name in front of those behind it and goes on with its object. -/
theorem pathParts_of_member {t : SyntaxTree} (h : t.kind = "member_expression")
    (tail : List String) : Naming.pathParts source tail t =
      ((t.child? "property").map (·.text source)).bind fun property =>
        ((t.child? "object").map (Naming.pathParts source (property :: tail))).getD
          (some (property :: tail)) := by
  obtain ⟨i, cs⟩ := t
  have hkind : i.kind = "member_expression" := h
  rw [Naming.pathParts, if_neg (by rw [hkind]; decide), if_pos hkind]
  show _ = ((cs.find? (isUnder "property")).map _).bind _
  cases cs.find? (isUnder "property") with
  | none => rfl
  | some property => exact objectParts_eq source _ cs

omit hT in
/-- At anything else a path ends, and there is none if nothing is behind it. -/
theorem pathParts_of_other {t : SyntaxTree} (hhead : Naming.pathHeads.contains t.kind = false)
    (h : t.kind ≠ "member_expression") (tail : List String) :
    Naming.pathParts source tail t = if tail.isEmpty then none else some tail := by
  obtain ⟨i, cs⟩ := t
  have hhead' : Naming.pathHeads.contains i.kind = false := hhead
  rw [Naming.pathParts, hhead', if_neg Bool.false_ne_true]
  exact if_neg h

/-- The names along a path are the same in both trees. The induction is on the first tree, with
the names behind general. -/
theorem pathParts_eq (t : SyntaxTree) : ∀ {t' : SyntaxTree} (tail : List String), T t t' →
    Naming.pathParts source' tail t' = Naming.pathParts source tail t := by
  induction t using childInduction with
  | step t ih =>
    intro t' tail ht
    have hheads := (hT.kind ht).test_eq Naming.pathHeads.contains (by decide) (by decide)
    by_cases hmember : t.kind = "member_expression"
    · -- the rest of the path is that of the object, which is a child
      have hmember' : t'.kind = "member_expression" := (hT.kind_iff ht (by decide)).mpr hmember
      have hkind : t'.kind = t.kind := hmember'.trans hmember.symm
      rw [pathParts_of_member hmember, pathParts_of_member hmember',
        hT.textUnder ht hkind "property" (hmember ▸ by decide)]
      refine congrArg _ (funext fun property => congrArg (Option.getD · _) ?_)
      exact map_eq_of_rel (hT.child ht hkind "object") fun object hobject _ _ h =>
        ih object (child?_mem hobject) _ h
    · cases hhead : Naming.pathHeads.contains t.kind with
      | true =>
        have htold : t.kind ∈ toldKinds := by
          simp only [toldKinds, List.mem_append, List.contains_iff_mem.mp hhead, true_or]
        rw [pathParts_of_head hhead, pathParts_of_head (hheads.trans hhead), hT.text ht htold]
      | false =>
        rw [pathParts_of_other hhead hmember, pathParts_of_other (hheads.trans hhead)
          (mt (hT.kind_iff ht (by decide)).mp hmember)]

/-- What a call calls goes by the same name in both trees. -/
theorem target?_eq (ht : T t t') (hkind : t'.kind = t.kind) :
    Naming.target? source' t' = Naming.target? source t := by
  refine bind_eq_of_rel (hT.child ht hkind "function") fun called _ called' _ hc => ?_
  refine (hT.kind hc).ite_eq (by decide) (fun hid => ?_) fun _ => ?_
  · rw [hT.text hc (hid ▸ by decide)]
  · exact (hT.kind hc).ite_eq (by decide) (fun _ => by rw [hT.pathParts_eq called [] hc])
      fun _ => rfl

/-- The name of an attribute is its first node. -/
theorem attributeName_eq (ht : T t t') (hkind : t.kind = "jsx_attribute") :
    (t'.namedChildren.head?.bind fun first =>
        if Naming.attributeNames.contains first.kind then Naming.textOf? source' first else none) =
      t.namedChildren.head?.bind fun first =>
        if Naming.attributeNames.contains first.kind then Naming.textOf? source first else none := by
  refine bind_eq_of_rel (hT.first ht hkind) fun first _ first' _ h => ?_
  rw [(hT.kind h).test_eq Naming.attributeNames.contains (by decide) (by decide)]
  by_cases hname : Naming.attributeNames.contains first.kind = true
  · have htold : first.kind ∈ toldKinds := by
      simp only [toldKinds, List.mem_append, List.contains_iff_mem.mp hname, true_or, or_true]
    rw [if_pos hname, if_pos hname, Naming.textOf?, Naming.textOf?, hT.text h htold]
  · rw [if_neg hname, if_neg hname]

end Resemblance

end SyntaxTree

/-- The parameters of a function are the one that stands alone or those in the list. -/
theorem Parameter.listOf_unfold (source : SourceText) (t : SyntaxTree) : listOf source t =
    (((t.child? "parameter").map (·.text source)).map fun text => [named text]).getD
      (((t.child? "parameters").map fun list =>
        (list.namedChildren.filter (·.kind != "comment")).mapIdx (ofTree source)).getD []) := by
  unfold listOf
  cases t.child? "parameter" <;> cases t.child? "parameters" <;> rfl

/-! ## Places -/

namespace Place

/-- Patterns that are parameters of their own in a grammar without types. -/
def bare : List String :=
  ["identifier", "undefined", "object_pattern", "array_pattern", "rest_pattern"]

/-- No function is a pattern. -/
theorem bare_of_function {kind : String} (h : Naming.isFunction kind = true) :
    bare.contains kind = false := by
  cases hbare : bare.contains kind with
  | false => rfl
  | true =>
    have hnone : ∀ k ∈ bare, Naming.isFunction k = false := by decide
    exact absurd h (Bool.eq_false_iff.mp (hnone kind (List.contains_iff_mem.mp hbare)))

theorem bare_of_expression {kind : String} (h : Naming.isExpression kind = true) :
    bare.contains kind = false :=
  bare_of_function (by rw [Naming.isFunction, h, Bool.or_true, Bool.true_or])

variable {S : String → Crumb → Crumb → Prop}

/-- The way up from a node of a kind in one tree and in another. `S` tells what else the
crumbs above a node of a kind have in common. -/
inductive Above (T : SyntaxTree → SyntaxTree → Prop) (S : String → Crumb → Crumb → Prop) :
    String → List Crumb → List Crumb → Prop
  | root {kind : String} : Above T S kind [] []
  | node {kind : String} {c c' : Crumb} {above above' : List Crumb} :
      T c.parent c'.parent → S kind c c' → Above T S c.parent.kind above above' →
      Above T S kind (c :: above) (c' :: above')
  /-- A pattern stands in a parameter in the first tree, and right in the list of the
  parameters in the second. -/
  | wrapper {kind : String} {c d : Crumb} {above above' : List Crumb} :
      bare.contains kind = true → c.parent.kind = "required_parameter" →
      d.parent.kind = "formal_parameters" →
      Above T S "required_parameter" (d :: above) above' →
      Above T S kind (c :: d :: above) above'

/-- A place in one tree and a place in another with nodes and ways up that resemble each
other. -/
structure Resembles (T : SyntaxTree → SyntaxTree → Prop) (S : String → Crumb → Crumb → Prop)
    (p p' : Place) : Prop where
  tree : T p.tree p'.tree
  above : Above T S p.kind p.above p'.above

namespace Resembles

open SyntaxTree (Resemblance)

variable {p p' : Place}

/-- Above all nodes but a bare pattern stand nodes that resemble each other. -/
theorem parent? (h : Resembles T S p p') (hbare : bare.contains p.kind = false) :
    Option.Rel (Resembles T S) p.parent? p'.parent? := by
  obtain ⟨t, above⟩ := p
  obtain ⟨t', above'⟩ := p'
  cases h.above with
  | root => exact .none
  | node htree _ habove => exact .some ⟨htree, habove⟩
  | wrapper hkind => exact absurd hkind (Bool.eq_false_iff.mp hbare)

variable (hT : Resemblance source source' T)

include hT

theorem kinds (h : Resembles T S p p') : Interchangeable p.kind p'.kind := hT.kind h.tree

/-- A node of a kind that does not change resembles one of the same kind. -/
theorem kind_eq (h : Resembles T S p p') {kind : String} (hkind : p.kind = kind)
    (hk : kind ∉ Interchangeable.changing) : p'.tree.kind = p.tree.kind :=
  (((h.kinds hT).eq_iff hk).mpr hkind).trans hkind.symm

/-- Both places are right below an export or neither is. -/
theorem isUnderExport_eq (h : Resembles T S p p') :
    FunctionInfo.isUnderExport p' = FunctionInfo.isUnderExport p := by
  obtain ⟨t, above⟩ := p
  obtain ⟨t', above'⟩ := p'
  cases h.above with
  | root => rfl
  | node htree => exact (hT.kind htree).test_eq (· == "export_statement") (by decide) (by decide)
  | @wrapper _ c d _ _ _ hparameter hlist habove =>
    -- no parameter and no list of parameters is an export
    have hc : (c.parent.kind == "export_statement") = false := by rw [hparameter]; decide
    refine Eq.trans ?_ hc.symm
    cases habove with
    | node htree =>
      have hd : (d.parent.kind == "export_statement") = false := by rw [hlist]; decide
      exact ((hT.kind htree).test_eq (· == "export_statement") (by decide) (by decide)).trans hd
    | wrapper hkind => exact nomatch hkind

/-- The nearest node above that satisfies a test on kinds. Where a pattern has lost the
node around it, either the test passes over such nodes or it has stopped before. -/
theorem ancestor?_rel (h : Resembles T S p p') (test : String → Bool)
    (hfield : test "field_definition" = test "public_field_definition")
    (hparameter : test "assignment_pattern" = test "required_parameter")
    (hstop : test "required_parameter" = false ∨ ∀ kind ∈ bare, test kind = true)
    (hstart : test "required_parameter" = false ∨ bare.contains p.kind = false) :
    Option.Rel (fun q q' => Resembles T S q q' ∧ test q.kind = true)
      (p.ancestor? fun q => test q.kind) (p'.ancestor? fun q => test q.kind) := by
  obtain ⟨t, above⟩ := p
  obtain ⟨t', above'⟩ := p'
  have hgo : ∀ {kind : String} {above above' : List Crumb}, Above T S kind above above' →
      (test "required_parameter" = false ∨ bare.contains kind = false) →
      Option.Rel (fun q q' => Resembles T S q q' ∧ test q.kind = true)
        (ancestor?.go (fun q => test q.kind) above)
        (ancestor?.go (fun q => test q.kind) above') := by
    intro kind above above' habove hkind
    induction habove with
    | root => exact .none
    | @node kind c c' above above' htree hcrumb habove ih =>
      have htest : test (Place.kind ⟨c'.parent, above'⟩) = test (Place.kind ⟨c.parent, above⟩) :=
        (hT.kind htree).test_eq test hfield hparameter
      rw [ancestor?.go, ancestor?.go]
      cases hc : test (Place.kind ⟨c.parent, above⟩) with
      | true =>
        rw [if_pos rfl, if_pos (htest.trans hc)]
        exact .some ⟨⟨htree, habove⟩, hc⟩
      | false =>
        rw [if_neg Bool.false_ne_true, if_neg (by rw [htest, hc]; exact Bool.false_ne_true)]
        refine ih (hstop.imp id fun hbare => ?_)
        cases hpattern : bare.contains c.parent.kind with
        | false => rfl
        | true =>
          exact absurd (hbare _ (List.contains_iff_mem.mp hpattern)) (Bool.eq_false_iff.mp hc)
    | @wrapper kind c d above above' hbare hc _ _ ih =>
      -- a search that has come to the pattern does not stop at the node around it
      have hpass : test "required_parameter" = false :=
        hkind.elim id fun hfree => absurd hbare (Bool.eq_false_iff.mp hfree)
      rw [ancestor?.go, if_neg (by rw [Place.kind, hc, hpass]; exact Bool.false_ne_true)]
      exact ih (.inl hpass)
  exact hgo h.above hstart

/-! ### Owners and bindings -/

/-- The classes around both places resemble each other. -/
theorem enclosingClass?_rel (h : Resembles T S p p') :
    Option.Rel (fun q q' => Resembles T S q q' ∧ Naming.classes.contains q.kind = true)
      (Naming.enclosingClass? p) (Naming.enclosingClass? p') :=
  h.ancestor?_rel hT Naming.classes.contains (by decide) (by decide)
    (.inl (by decide)) (.inl (by decide))

theorem enclosingClassName?_eq (h : Resembles T S p p') :
    Naming.enclosingClassName? source' p' = Naming.enclosingClassName? source p := by
  refine bind_eq_of_rel (h.enclosingClass?_rel hT) fun c _ c' _ ⟨hc, hclass⟩ => ?_
  have howner : (Naming.classes ++ Naming.fields ++ Naming.elements).contains c.tree.kind :=
    List.contains_iff_mem.mpr (List.mem_append_left _ (List.mem_append_left _
      (List.contains_iff_mem.mp hclass)))
  exact hT.writtenName?_eq hc.tree (hT.kind_eq hc.tree (by decide) hclass)
    (SyntaxTree.name_told_of_owner howner)

theorem classIsExported_eq (h : Resembles T S p p') :
    FunctionInfo.classIsExported p' = FunctionInfo.classIsExported p := by
  have hclass := h.enclosingClass?_rel hT
  unfold FunctionInfo.classIsExported
  generalize Naming.enclosingClass? p = c, Naming.enclosingClass? p' = c' at hclass ⊢
  cases hclass with
  | none => rfl
  | some hc => exact hc.1.isUnderExport_eq hT

/-- The variable that is bound right above a node. -/
theorem declared_eq (h : Resembles T S p p') :
    (if p'.kind = "variable_declarator" then Naming.boundName? source' p'.tree else none) =
      if p.kind = "variable_declarator" then Naming.boundName? source p.tree else none :=
  (h.kinds hT).ite_eq (by decide)
    (fun hkind => hT.boundName?_eq h.tree (h.kind_eq hT hkind (by decide))) fun _ => rfl

/-- The variable that holds an object around a place goes by the same name in both trees. -/
theorem objectBinding?_eq (h : Resembles T S p p') (hbare : bare.contains p.kind = false) :
    Naming.objectBinding? source' p' = Naming.objectBinding? source p :=
  bind_eq_of_rel (h.parent? hbare) fun _ _ _ _ hq => hq.declared_eq hT

theorem callBinding?_eq (h : Resembles T S p p') (hbare : bare.contains p.kind = false) :
    Naming.callBinding? source' p' = Naming.callBinding? source p :=
  bind_eq_of_rel
    (h.ancestor?_rel hT (fun kind => !Naming.wrappers.contains kind) (by decide)
      (by decide) (.inr (by decide)) (.inr hbare))
    fun _ _ _ _ hq => hq.1.declared_eq hT

/-! ### Names -/

omit hT in
/-- An argument goes by its call only if it is the first one. -/
theorem argumentName?_unfold (source : SourceText) (p arguments : Place) :
    Naming.argumentName? source p arguments =
      if p.isFirstNamed then
        arguments.parent?.bind fun call =>
          if call.kind = "call_expression" then
            (Naming.target? source call.tree).map
              (Naming.callbackName (Naming.callBinding? source call))
          else none
      else none := by
  unfold Naming.argumentName?
  cases p.isFirstNamed with
  | false => rfl
  | true =>
    cases arguments.parent? with
    | none => rfl
    | some call =>
      by_cases hkind : call.kind = "call_expression"
      · cases htarget : Naming.target? source call.tree <;> simp [hkind, htarget]
      · simp [hkind]

/-- Arguments at the same place have the same name in both trees. -/
theorem argumentName?_eq {a a' : Place} (h : Resembles T S a a')
    (hbare : bare.contains a.kind = false) (hfirst : p'.isFirstNamed = p.isFirstNamed) :
    Naming.argumentName? source' p' a' = Naming.argumentName? source p a := by
  rw [argumentName?_unfold, argumentName?_unfold, hfirst]
  refine congrArg (ite _ · none) (bind_eq_of_rel (h.parent? hbare) fun call _ call' _ hcall => ?_)
  refine (hcall.kinds hT).ite_eq (by decide) (fun hkind => ?_) fun _ => rfl
  rw [hT.target?_eq hcall.tree (hcall.kind_eq hT hkind (by decide)),
    hcall.callBinding?_eq hT (by rw [hkind]; decide)]

/-- A handler goes by its element and its attribute in both trees. -/
theorem handlerName_eq (h : Resembles T S p p') (hkind : p.kind = "jsx_attribute") :
    Naming.handlerName source' p' = Naming.handlerName source p := by
  have htag : (p'.parent?.bind fun element =>
      if Naming.elements.contains element.kind then Naming.writtenName? source' element.tree
      else none) = p.parent?.bind fun element =>
        if Naming.elements.contains element.kind then Naming.writtenName? source element.tree
        else none := by
    refine bind_eq_of_rel (h.parent? (by rw [hkind]; decide)) fun e _ e' _ he => ?_
    rw [(he.kinds hT).test_eq Naming.elements.contains (by decide) (by decide)]
    by_cases helement : Naming.elements.contains e.kind = true
    · have howner : (Naming.classes ++ Naming.fields ++ Naming.elements).contains e.tree.kind :=
        List.contains_iff_mem.mpr (List.mem_append_right _ (List.contains_iff_mem.mp helement))
      rw [if_pos helement, if_pos helement,
        hT.writtenName?_eq he.tree (hT.kind_eq he.tree (by decide) helement)
          (SyntaxTree.name_told_of_owner howner)]
    · rw [if_neg helement, if_neg helement]
  have hname := hT.attributeName_eq h.tree hkind
  unfold Naming.handlerName
  simp only [Option.bind_eq_bind]
  rw [htag, hname]

/-- A method goes by its class or object in both trees. -/
theorem methodName?_eq (h : Resembles T S p p') (hkind : p.kind = Naming.method) :
    Naming.methodName? source' p' = Naming.methodName? source p := by
  have hname : "name" ∈ SyntaxTree.toldFields p.kind := by rw [hkind]; decide
  unfold Naming.methodName?
  simp only [Option.bind_eq_bind]
  rw [hT.writtenName?_eq h.tree (h.kind_eq hT hkind (by decide)) hname]
  refine congrArg _ (funext fun member => ?_)
  refine bind_eq_of_rel (h.parent? (by rw [hkind]; decide)) fun parent _ parent' _ hp => ?_
  refine congrArg (fun owner => some (Naming.qualify owner member)) ?_
  refine (hp.kinds hT).ite_eq (by decide) (fun _ => h.enclosingClassName?_eq hT) fun _ => ?_
  refine (hp.kinds hT).ite_eq (by decide) (fun hobject => ?_) fun _ => rfl
  exact hp.objectBinding?_eq hT (by rw [hobject]; decide)

/-! ### Exports and calls -/

/-- Functions are exported in both trees or in neither. -/
theorem exportedAt_eq (h : Resembles T S p p') (hbare : bare.contains p.kind = false) :
    FunctionInfo.exportedAt p' = FunctionInfo.exportedAt p := by
  have hkinds := h.kinds hT
  have hparent := h.parent? hbare
  unfold FunctionInfo.exportedAt
  rw [hkinds.test_eq Naming.isDeclaration (by decide) (by decide),
    hkinds.test_eq Naming.isExpression (by decide) (by decide),
    hkinds.test_eq (· == Naming.method) (by decide) (by decide), h.isUnderExport_eq hT,
    h.classIsExported_eq hT]
  refine congrArg (ite _ _) ?_
  generalize p.parent? = q, p'.parent? = q' at hparent ⊢
  cases hparent with
  | none => rfl
  | @some q q' hq =>
    have hkinds := hq.kinds hT
    refine hkinds.ite_eq (by decide) (fun hkind => congrArg (_ && ·) ?_) fun _ => ?_
    · have habove := hq.parent? (by rw [hkind]; decide)
      generalize q.parent? = d, q'.parent? = d' at habove ⊢
      cases habove with
      | none => rfl
      | some hd => exact hd.isUnderExport_eq hT
    · refine hkinds.ite_eq (by decide) (fun _ => rfl) fun _ => ?_
      rw [hkinds.test_eq Naming.fields.contains (by decide) (by decide), hq.classIsExported_eq hT]

/-- What a member of an object goes by: the class around a place, or the variable that holds
the object. -/
def memberTarget? (source : SourceText) (p : Place) (object : SyntaxTree) (member : String) :
    Option String :=
  if object.kind = "this" then
    (Naming.enclosingClassName? source p).bind fun owner =>
      some (Naming.qualify (some owner) member)
  else if object.kind = "identifier" then
    some (Naming.qualify (some (object.text source)) member)
  else none

/-- What a member goes by is the same in both trees. -/
theorem memberTarget?_eq (h : Resembles T S p p') {object object' : SyntaxTree}
    (ho : T object object') (member : String) :
    memberTarget? source' p' object' member = memberTarget? source p object member := by
  refine (hT.kind ho).ite_eq (by decide) (fun _ => ?_) fun _ => ?_
  · rw [h.enclosingClassName?_eq hT]
  · exact (hT.kind ho).ite_eq (by decide) (fun hid => by rw [hT.text ho (hid ▸ by decide)])
      fun _ => rfl

/-- Calls have the same target in both trees. -/
theorem callee?_eq (h : Resembles T S p p') (hkind : p.kind = "call_expression") :
    CallSite.callee? source' p' = CallSite.callee? source p := by
  refine bind_eq_of_rel (hT.child h.tree (h.kind_eq hT hkind (by decide)) "function")
    fun called _ called' _ hc => ?_
  refine (hT.kind hc).ite_eq (by decide) (fun hid => ?_) fun _ => ?_
  · rw [hT.text hc (hid ▸ by decide)]
  refine (hT.kind hc).ite_eq (by decide) (fun hmember => ?_) fun _ => rfl
  have hmember' : called'.kind = called.kind :=
    ((hT.kind_iff hc (by decide)).mpr hmember).trans hmember.symm
  refine bind_eq_of_rel (hT.child hc hmember' "object") fun object _ object' _ ho => ?_
  exact bind_eq_of_map_eq (hT.textUnder hc hmember' "property" (by rw [hmember]; decide))
    (g := memberTarget? source p object) (h.memberTarget?_eq hT ho)

omit hT in
/-- A call is recorded if it has a caller and calls something known. -/
theorem at?_unfold (source : SourceText) (known : String → Bool) (caller : Option String)
    (p : Place) : CallSite.at? source known caller p =
      if p.kind = "call_expression" then
        caller.bind fun caller => (CallSite.callee? source p).bind fun callee =>
          if known callee then
            some ⟨caller, callee, p.tree.info.startPoint.row + 1,
              some (p.tree.info.startPoint.column + 1)⟩
          else none
      else none := by
  unfold CallSite.at?
  by_cases hkind : p.kind = "call_expression"
  · simp [hkind]
  · simp [hkind]

/-- The same call stands at both places, up to what `g` leaves out of where they are. -/
theorem at?_eq {γ : Type} {g : CallSite → γ} (h : Resembles T S p p')
    (hg : ∀ caller callee,
      g ⟨caller, callee, p'.tree.info.startPoint.row + 1,
        some (p'.tree.info.startPoint.column + 1)⟩ =
      g ⟨caller, callee, p.tree.info.startPoint.row + 1,
        some (p.tree.info.startPoint.column + 1)⟩) (known : String → Bool)
    (caller : Option String) : (CallSite.at? source' known caller p').map g =
      (CallSite.at? source known caller p).map g := by
  rw [at?_unfold, at?_unfold]
  by_cases hkind : p.kind = "call_expression"
  · rw [if_pos hkind, if_pos (((h.kinds hT).eq_iff (by decide)).mpr hkind),
      h.callee?_eq hT hkind]
    cases caller with
    | none => rfl
    | some caller =>
      cases CallSite.callee? source p with
      | none => rfl
      | some callee =>
        cases hknown : known callee with
        | false => simp [hknown]
        | true => simpa [hknown] using hg caller callee
  · rw [if_neg hkind, if_neg (mt ((h.kinds hT).eq_iff (by decide)).mp hkind)]

end Resembles

/-- Whether a function is the value of a field of a class in a grammar with types. -/
def initializesField (p : Place) : Bool :=
  Naming.isExpression p.kind && p.isField "value" &&
    match p.parent? with
    | some parent => parent.kind == "public_field_definition"
    | none => false

/-- Places that resemble each other and stand alike among their siblings, as far as that
matters for the name of a function. -/
structure Seated (T : SyntaxTree → SyntaxTree → Prop) (S : String → Crumb → Crumb → Prop)
    (p p' : Place) : Prop extends Resembles T S p p' where
  first : Naming.isExpression p.kind = true → ∀ q ∈ p.parent?, q.kind = "arguments" →
    p'.isFirstNamed = p.isFirstNamed
  value : Naming.isExpression p.kind = true → ∀ q ∈ p.parent?, q.kind ≠ "required_parameter" →
    p'.isField "value" = p.isField "value"

namespace Seated

open SyntaxTree (Resemblance)

variable (hT : Resemblance source source' T) {p p' q q' : Place}

include hT

/-- The field of which a function is the value has one kind, if that is known of fields in
the grammar with types. -/
theorem fieldKind_eq (hexpr : Naming.isExpression p.kind = true) (hinit : p.isField "value" = true)
    (hq : q ∈ p.parent?) (hqq : Resembles T S q q') (hf : Naming.fields.contains q.kind = true)
    (hfield : initializesField p = true → q'.kind = q.kind) : q'.kind = q.kind := by
  rcases hqq.kinds hT with heq | ⟨heq, _⟩ | ⟨heq, _⟩
  · exact heq
  · refine hfield ?_
    rw [initializesField, hexpr, hinit, Option.mem_def.mp hq]
    exact beq_iff_eq.mpr heq
  · rw [heq] at hf
    exact absurd hf (by decide)

/-- What a function is called where a value stands. For the value of a field of a class
the kind of the field must be the same, as that tells where its name is. -/
theorem valueName?_eq (h : Seated T S p p') (hexpr : Naming.isExpression p.kind = true)
    (hq : q ∈ p.parent?) (hqq : Resembles T S q q')
    (hfield : initializesField p = true → q'.kind = q.kind) :
    Naming.valueName? source' p' q' = Naming.valueName? source p q := by
  have hkinds : Interchangeable q.kind q'.kind := hqq.kinds hT
  have hvalue : q.kind ≠ "required_parameter" → p'.isField "value" = p.isField "value" :=
    h.value hexpr q hq
  unfold Naming.valueName?
  refine hkinds.ite_eq (by decide) (fun hkind => ?_) fun _ => ?_
  · rw [hvalue (by rw [hkind]; decide),
      hT.boundName?_eq hqq.tree (hqq.kind_eq hT hkind (by decide))]
  rw [hkinds.test_eq Naming.fields.contains (by decide) (by decide)]
  -- the grammars have the name of a field at different places, so here the kind matters
  by_cases hf : Naming.fields.contains q.kind = true
  · have hparameter : q.kind ≠ "required_parameter" := fun heq => by
      rw [heq] at hf
      exact absurd hf (by decide)
    rw [if_pos hf, if_pos hf, hvalue hparameter]
    by_cases hinit : p.isField "value" = true
    · have hkind : q'.kind = q.kind := fieldKind_eq hT hexpr hinit hq hqq hf hfield
      have howner : (Naming.classes ++ Naming.fields ++ Naming.elements).contains q.kind :=
        List.contains_iff_mem.mpr (List.mem_append_left _ (List.mem_append_right _
          (List.contains_iff_mem.mp hf)))
      rw [if_pos hinit, if_pos hinit, hqq.enclosingClassName?_eq hT,
        hT.writtenName?_eq hqq.tree hkind (SyntaxTree.name_told_of_owner howner)]
    · rw [if_neg hinit, if_neg hinit]
  rw [if_neg hf, if_neg hf]
  refine hkinds.ite_eq (by decide) (fun hkind => ?_) fun _ => ?_
  · have hkey : "key" ∈ SyntaxTree.toldFields q.kind := by rw [hkind]; decide
    rw [hvalue (by rw [hkind]; decide),
      hT.under_eq hqq.tree (hqq.kind_eq hT hkind (by decide)) hkey]
    refine congrArg (ite _ · none) (congrArg _ (funext fun member => ?_))
    refine congrArg (fun owner => some (Naming.qualify owner member)) ?_
    refine bind_eq_of_rel (hqq.parent? (by rw [hkind]; decide)) fun o _ o' _ ho => ?_
    exact (ho.kinds hT).ite_eq (by decide)
      (fun hobject => ho.objectBinding?_eq hT (by rw [hobject]; decide)) fun _ => rfl
  refine hkinds.ite_eq (by decide) (fun hkind => ?_) fun _ => ?_
  · exact hqq.argumentName?_eq hT (by rw [hkind]; decide) (h.first hexpr q hq hkind)
  refine hkinds.ite_eq (by decide) (fun hkind => ?_) fun _ => rfl
  refine bind_eq_of_rel (hqq.parent? (by rw [hkind]; decide)) fun attr _ attr' _ hattr => ?_
  exact (hattr.kinds hT).ite_eq (by decide)
    (fun hkind => congrArg some (hattr.handlerName_eq hT hkind)) fun _ => rfl

/-- Functions go by the same name in both trees. -/
theorem name?_eq (h : Seated T S p p')
    (hfield : initializesField p = true → ∀ q q', Resembles T S q q' → q'.kind = q.kind) :
    Naming.name? source' p' = Naming.name? source p := by
  have hkinds := h.kinds hT
  unfold Naming.name?
  rw [hkinds.test_eq Naming.isDeclaration (by decide) (by decide),
    hkinds.test_eq Naming.isExpression (by decide) (by decide)]
  by_cases hdeclaration : Naming.isDeclaration p.kind = true
  · have hname := SyntaxTree.name_told_of_function (SyntaxTree.isFunction_of_declaration hdeclaration)
    rw [if_pos hdeclaration, if_pos hdeclaration,
      hT.writtenName?_eq h.tree (hT.kind_eq h.tree (by decide) hdeclaration) hname]
  rw [if_neg hdeclaration, if_neg hdeclaration]
  refine hkinds.ite_eq (by decide) (fun hmethod => h.methodName?_eq hT hmethod) fun _ => ?_
  by_cases hexpr : Naming.isExpression p.kind = true
  · rw [if_pos hexpr, if_pos hexpr]
    exact bind_eq_of_rel (h.parent? (bare_of_expression hexpr)) fun q hq q' _ hqq =>
      h.valueName?_eq hT hexpr hq hqq fun hinit => hfield hinit q q' hqq
  · rw [if_neg hexpr, if_neg hexpr]

end Seated

/-! ## Walks -/

/-- The places right below a place; where one of them is passed over, those below it
stand in its place. -/
def below (passed : Place → Bool) (p : Place) : List Place :=
  p.children.flatMap fun q => if passed q then q.children else [q]

/-- What stands right below a place has fewer nodes, also where another place is passed over. -/
theorem nodeCount_of_mem_below {passed : Place → Bool} {p q : Place} (h : q ∈ p.below passed) :
    q.tree.nodeCount < p.tree.nodeCount := by
  obtain ⟨c, hc, hq⟩ := List.mem_flatMap.mp h
  have hlt := nodeCount_of_mem_children hc
  split at hq
  · exact (nodeCount_of_mem_children hq).trans hlt
  · rwa [List.mem_singleton.mp hq]

section Walks

variable {R : Place → Place → Prop} {passed passed' : Place → Bool} {σ β β' γ : Type}

/-- Places at which nothing is yielded and nothing is handed on but what was handed to
them can be passed over. -/
theorem collect_eq_below {hand : σ → Place → σ} {yield : σ → Place → Option β}
    (hpassed : ∀ q, passed q = true → ∀ s, hand s q = s ∧ yield s q = none) (s : σ) (p : Place) :
    p.collect hand yield s = (yield (hand s p) p).toList ++
      (p.below passed).flatMap (collect hand yield (hand s p)) := by
  rw [collect_eq, below, List.flatMap_assoc]
  refine congrArg (_ ++ ·) (congrArg List.flatten (List.map_congr_left fun q _ => ?_))
  cases hq : passed q with
  | true =>
    obtain ⟨hhand, hyield⟩ := hpassed q hq (hand s p)
    rw [collect_eq, hhand, hyield]
    rfl
  | false => exact (List.append_nil _).symm

/-- Two ways to hand on that agree below a place are the same there. -/
theorem collect_congr {hand hand' : σ → Place → σ} {yield : σ → Place → Option β} (p : Place)
    (h : ∀ q ∈ p.subtree, ∀ s, hand' s q = hand s q) (s : σ) :
    p.collect hand' yield s = p.collect hand yield s := by
  induction p using childInduction generalizing s with
  | step p ih =>
    have hbelow : ∀ q ∈ p.children, ∀ v, q.collect hand' yield v = q.collect hand yield v := by
      intro q hq v
      refine ih q hq (fun r hr => h r ?_) v
      rw [subtree_eq]
      exact List.mem_cons_of_mem _ (List.mem_flatMap.mpr ⟨q, hq, hr⟩)
    rw [collect_eq, collect_eq, h p (self_mem_subtree p)]
    refine congrArg (_ ++ ·) ?_
    rw [List.flatMap_def, List.flatMap_def]
    exact congrArg List.flatten (List.map_congr_left fun q hq => hbelow q hq _)

/-- Walks through trees of which the places correspond collect what corresponds. -/
theorem collect_map_eq {hand hand' : σ → Place → σ} {yield : σ → Place → Option β}
    {yield' : σ → Place → Option β'} {g : β → γ} {g' : β' → γ}
    (hbelow : ∀ p p', R p p' → List.Forall₂ R (p.below passed) (p'.below passed'))
    (hpassed : ∀ q, passed q = true → ∀ s, hand s q = s ∧ yield s q = none)
    (hpassed' : ∀ q, passed' q = true → ∀ s, hand' s q = s ∧ yield' s q = none)
    (hhand : ∀ p p', R p p' → ∀ s, hand' s p' = hand s p)
    (hyield : ∀ p p', R p p' → ∀ s, (yield' s p').map g' = (yield s p).map g)
    {p p' : Place} (h : R p p') (s : σ) :
    (p'.collect hand' yield' s).map g' = (p.collect hand yield s).map g := by
  -- below a place go on by its children, which correspond one by one
  have hchildren : ∀ {qs qs' : List Place} (v : σ), List.Forall₂ R qs qs' →
      (∀ q ∈ qs, q ∈ p.below passed) →
      (qs'.flatMap (collect hand' yield' v)).map g' = (qs.flatMap (collect hand yield v)).map g := by
    intro qs qs' v hqs hmem
    induction hqs with
    | nil => rfl
    | @cons q q' qs qs' hq _ ih =>
      have : q.tree.nodeCount < p.tree.nodeCount :=
        nodeCount_of_mem_below (hmem q (List.mem_cons_self ..))
      rw [List.flatMap_cons, List.flatMap_cons, List.map_append, List.map_append,
        collect_map_eq hbelow hpassed hpassed' hhand hyield hq v,
        ih fun r hr => hmem r (List.mem_cons_of_mem _ hr)]
  have hhere : ∀ v, ((yield' v p').toList).map g' = ((yield v p).toList).map g := fun v => by
    rw [← Option.toList_map, ← Option.toList_map, hyield p p' h v]
  rw [collect_eq_below hpassed, collect_eq_below hpassed', List.map_append, List.map_append,
    hhand p p' h s, hhere, hchildren _ (hbelow p p' h) fun q hq => hq]
termination_by p.tree.nodeCount

/-- Walks without a state. -/
theorem visits_map_eq {yield : Place → Option β} {yield' : Place → Option β'} {g : β → γ}
    {g' : β' → γ} (hbelow : ∀ p p', R p p' → List.Forall₂ R (p.below passed) (p'.below passed'))
    (hpassed : ∀ q, passed q = true → yield q = none)
    (hpassed' : ∀ q, passed' q = true → yield' q = none)
    (hyield : ∀ p p', R p p' → (yield' p').map g' = (yield p).map g)
    {t t' : SyntaxTree} (h : R (root t) (root t')) :
    (t'.visits.filterMap yield').map g' = (t.visits.filterMap yield).map g := by
  have hcollect : ∀ {α : Type} (f : Place → Option α) (t : SyntaxTree),
      t.visits.filterMap f = (root t).collect (fun _ _ => ()) (fun _ p => f p) () :=
    fun f t => (@collect_eq_filterMap Unit _ (fun _ _ => ()) (fun _ p => f p) (fun _ => ())
      (fun _ _ _ => rfl) (root t)).symm
  rw [hcollect, hcollect]
  exact collect_map_eq hbelow (fun q hq _ => ⟨rfl, hpassed q hq⟩)
    (fun q hq _ => ⟨rfl, hpassed' q hq⟩) (fun _ _ _ _ => rfl) (fun p p' hp _ => hyield p p' hp) h ()

/-- Only functions have names. -/
theorem name?_of_not_function {p : Place} (h : Naming.isFunction p.kind = false) :
    Naming.name? source p = none := by
  cases hname : Naming.name? source p with
  | none => rfl
  | some name => exact absurd (CallSite.isFunction_of_name? hname) (Bool.eq_false_iff.mp h)

/-- Calls that differ at most in what `g` leaves out are told of both trees, if places of
the trees correspond that have the same names. -/
theorem calls_map_eq {g : CallSite → γ} (hT : SyntaxTree.Resemblance source source' T)
    (hbelow : ∀ p p', R p p' → List.Forall₂ R (p.below passed) (p'.below passed'))
    (hpassed : ∀ q, passed q = true → Naming.isFunction q.kind = false ∧ q.kind ≠ "call_expression")
    (hpassed' : ∀ q, passed' q = true →
      Naming.isFunction q.kind = false ∧ q.kind ≠ "call_expression")
    (hR : ∀ p p', R p p' → Resembles T S p p')
    (hname : ∀ p p', R p p' → Naming.name? source' p' = Naming.name? source p)
    (hg : ∀ p p', R p p' → ∀ caller callee,
      g ⟨caller, callee, p'.tree.info.startPoint.row + 1,
        some (p'.tree.info.startPoint.column + 1)⟩ =
      g ⟨caller, callee, p.tree.info.startPoint.row + 1,
        some (p.tree.info.startPoint.column + 1)⟩)
    {t t' : SyntaxTree} (h : R (root t) (root t')) (known : String → Bool) :
    (CallSite.listOf source' known t').map g = (CallSite.listOf source known t).map g := by
  have hsilent : ∀ (source : SourceText) (q : Place),
      Naming.isFunction q.kind = false ∧ q.kind ≠ "call_expression" → ∀ s,
      CallSite.enclosing source s q = s ∧ CallSite.at? source known s q = none := by
    intro source q ⟨hfunction, hcall⟩ s
    refine ⟨?_, ?_⟩
    · rw [CallSite.enclosing, name?_of_not_function hfunction, Option.none_or]
    · rw [Resembles.at?_unfold, if_neg hcall]
  rw [CallSite.listOf_eq_collect, CallSite.listOf_eq_collect]
  refine collect_map_eq hbelow (fun q hq => hsilent source q (hpassed q hq))
    (fun q hq => hsilent source' q (hpassed' q hq)) (fun p p' hp s => ?_) (fun p p' hp s => ?_) h none
  · rw [CallSite.enclosing, CallSite.enclosing, hname p p' hp]
  · exact (hR p p' hp).at?_eq hT (hg p p' hp) known s

end Walks

end Place

end CallAtlas
