import CallAtlas.Proofs.Comments
import CallAtlas.Proofs.LeadingComments
import CallAtlas.Proofs.MemberCalls

/-!
# Two readings of exports

Whether a function is exported is told twice. Its record says so by what stands right above the
declaration of the function or of its variable. And the exports of a text are read from the
statements at the top, down to the names that they declare.

`Exports` is what both readings are about: a function is declared by an export, or is the value
of a variable that is declared by it. Going down, its record is exported and the export tells its
name (`mem_exportedNames`). Going up, a record that is exported and is no member of a class comes
from such a function (`exports_of_exportedAt`), as long as declarations stand where the grammars
have them (`DeclarationsFit`).

The readings part where variables are exported by `default`. Each function keeps its name, but
such an export has only the name `default` (`exports_agree`).
-/

namespace CallAtlas

/-! ## Places and fields -/

namespace Place

/-- A place in a tree is one of the children of its parent. -/
theorem Within.child_of_parent {t : SyntaxTree} {p parent : Place} (hp : Within t p)
    (hparent : p.parent? = some parent) : p ∈ parent.children := by
  cases hp with
  | root => cases hparent
  | @child q _ _ hq =>
    obtain ⟨before, habove⟩ := above_of_mem_children hq
    rw [Place.parent?, habove] at hparent
    obtain rfl := Option.some.inj hparent
    exact hq

/-- The first child under a field is the one that is looked up. -/
theorem child?_of_isField {p parent : Place} {field : String} (hp : p ∈ parent.children)
    (h : p.isField field = true) : parent.tree.child? field = some p.tree := by
  obtain ⟨after, hchildren⟩ := before_append_of_mem_children hp
  obtain ⟨hunder, hbefore⟩ := Bool.and_eq_true_iff.mp h
  rw [Bool.not_eq_true', List.any_eq_false] at hbefore
  rw [SyntaxTree.child?, hchildren, List.find?_append, List.find?_eq_none.mpr fun b hb =>
    hbefore b (List.mem_reverse.mp hb), Option.none_or, List.find?_cons_of_pos hunder]

/-- Where one child at most stands under a field, that child is the first one. -/
theorem isField_of_isUnder {p parent : Place} {field : String} (hp : p ∈ parent.children)
    (hunder : p.tree.isUnder field = true)
    (hone : (parent.tree.children.filter (SyntaxTree.isUnder field)).length ≤ 1) :
    p.isField field = true := by
  obtain ⟨after, hchildren⟩ := before_append_of_mem_children hp
  rw [isField, hunder, Bool.true_and, Bool.not_eq_true', List.any_eq_false]
  intro b hb hbunder
  -- the place and a sibling before it would be two
  have hbkept : b ∈ p.before.reverse.filter (SyntaxTree.isUnder field) :=
    List.mem_filter.mpr ⟨List.mem_reverse.mpr hb, hbunder⟩
  rw [hchildren, List.filter_append, List.filter_cons_of_pos hunder, List.length_append,
    List.length_cons] at hone
  have hpos := List.length_pos_of_mem hbkept
  omega

end Place

namespace ModuleSurface

/-! ## What an export exports -/

/-- An export exports the function at a place: as the declaration of it, or as the declaration
of a variable with the function as its value. -/
inductive Exports (e : Place) : Place → Prop
  | function {p : Place} (hp : Naming.isDeclaration p.kind = true) (he : p.parent? = some e)
      (hfield : p.isField "declaration" = true) : Exports e p
  | value {p declarator declaration : Place} (hp : Naming.isExpression p.kind = true)
      (hvalue : p.isField "value" = true) (hdeclarator : p.parent? = some declarator)
      (hkind : declarator.kind = "variable_declarator")
      (hdeclaration : declarator.parent? = some declaration)
      (hbinding : bindings.contains declaration.kind = true)
      (he : declaration.parent? = some e) (hfield : declaration.isField "declaration" = true) :
      Exports e p

/-- The declarations at a node stand where grammars have them: variables are declared in
declarations of variables, and what an export declares is the one child under the field for
it. -/
structure DeclarationsFit (n : SyntaxTree) : Prop where
  named : ∀ c ∈ n.children, c.kind = "export_statement" ∨ c.kind = "variable_declarator" →
    c.info.named = true
  bound : ∀ c ∈ n.children, c.kind = "variable_declarator" → bindings.contains n.kind = true
  declared : n.kind = "export_statement" → ∀ c ∈ n.children,
    Naming.isDeclaration c.kind = true ∨ bindings.contains c.kind = true →
      c.isUnder "declaration" = true
  single : n.kind = "export_statement" →
    (n.children.filter (SyntaxTree.isUnder "declaration")).length ≤ 1

instance (n : SyntaxTree) : Decidable (DeclarationsFit n) :=
  decidable_of_iff
    ((∀ c ∈ n.children, c.kind = "export_statement" ∨ c.kind = "variable_declarator" →
        c.info.named = true) ∧
      (∀ c ∈ n.children, c.kind = "variable_declarator" → bindings.contains n.kind = true) ∧
      (n.kind = "export_statement" → ∀ c ∈ n.children,
        Naming.isDeclaration c.kind = true ∨ bindings.contains c.kind = true →
          c.isUnder "declaration" = true) ∧
      (n.kind = "export_statement" →
        (n.children.filter (SyntaxTree.isUnder "declaration")).length ≤ 1))
    ⟨fun ⟨hnamed, hbound, hdeclared, hsingle⟩ => ⟨hnamed, hbound, hdeclared, hsingle⟩,
      fun h => ⟨h.named, h.bound, h.declared, h.single⟩⟩

/-- Whether the function at a place is a member of a class. -/
def isClassMember (p : Place) : Bool :=
  p.parent?.any fun parent => parent.kind == "class_body" || Naming.fields.contains parent.kind

/-! ## From the export down -/

theorem not_declaration_of_binding {kind : String} (h : bindings.contains kind = true) :
    Naming.isDeclaration kind = false := by
  have hkinds : ∀ k ∈ bindings, Naming.isDeclaration k = false := by decide
  exact hkinds kind (List.contains_iff_mem.mp h)

theorem not_binding_of_declaration {kind : String} (h : Naming.isDeclaration kind = true) :
    bindings.contains kind = false := by
  have hkinds : ∀ k ∈ Naming.declarations, bindings.contains k = false := by decide
  exact hkinds kind (List.contains_iff_mem.mp h)

/-- What an export at the top exports is among the exports of the text. -/
theorem exportedNames_subset {source : SourceText} {t : SyntaxTree} {e : Place} {name : String}
    (he : e ∈ (Place.root t).children) (hnamed : e.tree.info.named = true)
    (hkind : e.kind = "export_statement") (h : name ∈ exportedNames source e.tree) :
    name ∈ (ofTree source t).exports := by
  have hchild : e.tree ∈ t.children := Place.tree_mem_children he
  refine List.mem_flatMap.mpr ⟨e.tree, List.mem_filter.mpr ⟨?_, beq_iff_eq.mpr hkind⟩, h⟩
  exact List.mem_filter.mpr ⟨hchild, hnamed⟩

section Down

variable {source : SourceText} {e p : Place} {name : String}

/-- The name of a declaration is exported, by `default` too. -/
theorem mem_exportedNames_of_declaration (hchild : p ∈ e.children)
    (hp : Naming.isDeclaration p.kind = true) (hfield : p.isField "declaration" = true)
    (hname : Naming.name? source p = some name) : name ∈ exportedNames source e.tree := by
  have hwritten : Naming.writtenName? source p.tree = some name := by
    rwa [Naming.name?, if_pos hp] at hname
  have hkind : Naming.isDeclaration p.tree.kind = true := hp
  rw [exportedNames, Place.child?_of_isField hchild hfield]
  by_cases hdefault : isDefault e.tree = true
  · rw [if_pos hdefault, defaultExport]
    refine List.mem_singleton.mpr ?_
    show name = (if Naming.isDeclaration p.tree.kind then Naming.writtenName? source p.tree
      else none).getD defaultName
    rw [if_pos hkind, hwritten, Option.getD_some]
  · obtain ⟨node, hnode, rfl⟩ := Naming.writtenName?_eq_some hwritten
    rw [if_neg hdefault]
    show node.text source ∈ declaredNames source p.tree
    rw [declaredNames, not_binding_of_declaration hkind, if_neg Bool.false_ne_true, hkind,
      Bool.true_or, if_pos rfl, hnode]
    exact List.mem_singleton.mpr rfl

/-- A function that is named by its variable is the value of it and has the same name. -/
theorem value_of_name? {declarator : Place} (hp : Naming.isExpression p.kind = true)
    (hdeclarator : p.parent? = some declarator) (hkind : declarator.kind = "variable_declarator")
    (hname : Naming.name? source p = some name) :
    p.isField "value" = true ∧ Naming.boundName? source declarator.tree = some name := by
  rw [Naming.name?_of_expression source hp, hdeclarator, Option.bind_some, Naming.valueName?,
    if_pos hkind] at hname
  split at hname
  · next hvalue => exact ⟨hvalue, hname⟩
  · cases hname

/-- The names of variables are exported, but not by `default`. -/
theorem exportedNames_of_binding {declarator declaration : Place}
    (hchild : declaration ∈ e.children) (hvariable : declarator ∈ declaration.children)
    (hbinding : bindings.contains declaration.kind = true)
    (hfield : declaration.isField "declaration" = true)
    (hnamed : declarator.tree.info.named = true)
    (hkind : declarator.kind = "variable_declarator")
    (hname : Naming.boundName? source declarator.tree = some name) :
    (isDefault e.tree = true → exportedNames source e.tree = [defaultName]) ∧
      (isDefault e.tree = false → name ∈ exportedNames source e.tree) := by
  have hnone : Naming.isDeclaration declaration.tree.kind = false :=
    not_declaration_of_binding hbinding
  rw [exportedNames, Place.child?_of_isField hchild hfield]
  refine ⟨fun hdefault => ?_, fun hplain => ?_⟩
  · rw [if_pos hdefault, defaultExport]
    show [(if Naming.isDeclaration declaration.tree.kind then
      Naming.writtenName? source declaration.tree else none).getD defaultName] = _
    rw [hnone, if_neg Bool.false_ne_true, Option.getD_none]
  · rw [hplain, if_neg Bool.false_ne_true]
    show name ∈ declaredNames source declaration.tree
    rw [declaredNames, if_pos (show bindings.contains declaration.tree.kind = true from hbinding)]
    refine List.mem_filterMap.mpr ⟨declarator.tree, List.mem_filter.mpr ⟨?_, ?_⟩, hname⟩
    · exact List.mem_filter.mpr ⟨Place.tree_mem_children hvariable, hnamed⟩
    · exact beq_iff_eq.mpr hkind

end Down

/-- The record of a function that is exported says so. -/
theorem exportedAt_of_exports {e p : Place} (hkind : e.kind = "export_statement")
    (h : Exports e p) : FunctionInfo.exportedAt p = true := by
  have hunder : ∀ {q : Place}, q.parent? = some e → FunctionInfo.isUnderExport q = true := by
    intro q hq
    rw [FunctionInfo.isUnderExport, hq]
    exact beq_iff_eq.mpr hkind
  cases h with
  | function hp he =>
    rw [FunctionInfo.exportedAt, if_pos hp]
    exact hunder he
  | value hp _ hdeclarator hvariable hdeclaration _ he =>
    rw [FunctionInfo.exportedAt, Naming.not_declaration_of_expression hp,
      if_neg Bool.false_ne_true, hdeclarator]
    dsimp only
    rw [if_pos hvariable, hp, hdeclaration]
    exact hunder he

/-! ## From the function up -/

theorem isUnderExport_iff {p : Place} : FunctionInfo.isUnderExport p = true ↔
    ∃ e, p.parent? = some e ∧ e.kind = "export_statement" := by
  rw [FunctionInfo.isUnderExport]
  cases p.parent? with
  | none => exact ⟨fun h => absurd h Bool.false_ne_true, fun ⟨e, he, _⟩ => nomatch he⟩
  | some e =>
    constructor
    · intro h
      exact ⟨e, rfl, beq_iff_eq.mp h⟩
    · rintro ⟨e', he, hkind⟩
      obtain rfl := Option.some.inj he
      exact beq_iff_eq.mpr hkind

/-- What is exported and no member of a class stands right under an export with its declaration,
or with the declaration of its variable. -/
theorem wrapped_of_exportedAt {p : Place} (h : FunctionInfo.exportedAt p = true)
    (hmember : isClassMember p = false) :
    (Naming.isDeclaration p.kind = true ∧ FunctionInfo.isUnderExport p = true) ∨
      ∃ declarator declaration, Naming.isExpression p.kind = true ∧
        p.parent? = some declarator ∧ declarator.kind = "variable_declarator" ∧
        declarator.parent? = some declaration ∧
        FunctionInfo.isUnderExport declaration = true := by
  rw [FunctionInfo.exportedAt] at h
  by_cases hdeclaration : Naming.isDeclaration p.kind = true
  · rw [if_pos hdeclaration] at h
    exact .inl ⟨hdeclaration, h⟩
  · rw [if_neg hdeclaration] at h
    refine .inr ?_
    cases hparent : p.parent? with
    | none => rw [hparent] at h; cases h
    | some parent =>
      rw [hparent] at h
      rw [isClassMember, hparent, Option.any_some, Bool.or_eq_false_iff] at hmember
      obtain ⟨hbody, hfield⟩ := hmember
      dsimp only at h
      by_cases hkind : parent.kind = "variable_declarator"
      · rw [if_pos hkind, Bool.and_eq_true_iff] at h
        obtain ⟨hexpr, h⟩ := h
        cases hgrand : parent.parent? with
        | none => rw [hgrand] at h; cases h
        | some declaration =>
          rw [hgrand] at h
          exact ⟨parent, declaration, hexpr, rfl, hkind, hgrand, h⟩
      · rw [if_neg hkind, if_neg (beq_eq_false_iff_ne.mp hbody), hfield,
          if_neg Bool.false_ne_true] at h
        cases h

/-- Where declarations fit, a function that is exported and no member of a class is exported by
the nearest export around it. -/
theorem exports_of_exportedAt {source : SourceText} {t : SyntaxTree} {e p : Place} {name : String}
    (hfit : ∀ n ∈ t.nodes, DeclarationsFit n) (hp : Place.Within t p)
    (hname : Naming.name? source p = some name) (h : FunctionInfo.exportedAt p = true)
    (hmember : isClassMember p = false)
    (hnearest : p.ancestor? (·.kind == "export_statement") = some e) : Exports e p := by
  have hfits : ∀ {q : Place}, Place.Within t q → DeclarationsFit q.tree := fun hq =>
    hfit _ (SyntaxTree.mem_nodes_iff.mpr ⟨_, hq, rfl⟩)
  -- what an export declares is found under its field
  have hfield : ∀ {q parent : Place}, Place.Within t q → q.parent? = some parent →
      parent.kind = "export_statement" →
      Naming.isDeclaration q.kind = true ∨ bindings.contains q.kind = true →
      q.isField "declaration" = true := by
    intro q parent hq hparent hkind hdeclared
    have hparentFit := hfits (hq.parent? hparent)
    have hchild := hq.child_of_parent hparent
    refine Place.isField_of_isUnder hchild ?_ (hparentFit.single hkind)
    exact hparentFit.declared hkind _ (Place.tree_mem_children hchild) hdeclared
  rcases wrapped_of_exportedAt h hmember with ⟨hdeclaration, hunder⟩ |
    ⟨declarator, declaration, hexpr, hdeclarator, hkind, hdeclaration, hunder⟩
  · obtain ⟨e', he', hexport⟩ := isUnderExport_iff.mp hunder
    rw [Place.ancestor?_of_parent he', if_pos (beq_iff_eq.mpr hexport)] at hnearest
    obtain rfl := Option.some.inj hnearest
    exact .function hdeclaration he' (hfield hp he' hexport (.inl hdeclaration))
  · obtain ⟨e', he', hexport⟩ := isUnderExport_iff.mp hunder
    have hwithin := hp.parent? hdeclarator
    have hbinding : bindings.contains declaration.kind = true :=
      (hfits (hwithin.parent? hdeclaration)).bound _
        (Place.tree_mem_children (hwithin.child_of_parent hdeclaration)) hkind
    -- neither the variable nor its declaration is an export itself
    have hvariable : (declarator.kind == "export_statement") = false := by
      rw [hkind]
      decide
    have hother : (declaration.kind == "export_statement") = false := by
      have hkinds : ∀ k ∈ bindings, (k == "export_statement") = false := by decide
      exact hkinds _ (List.contains_iff_mem.mp hbinding)
    rw [Place.ancestor?_of_parent hdeclarator, hvariable, if_neg Bool.false_ne_true,
      Place.ancestor?_of_parent hdeclaration, hother, if_neg Bool.false_ne_true,
      Place.ancestor?_of_parent he', if_pos (beq_iff_eq.mpr hexport)] at hnearest
    obtain rfl := Option.some.inj hnearest
    obtain ⟨hvalue, -⟩ := value_of_name? hexpr hdeclarator hkind hname
    exact .value hexpr hvalue hdeclarator hkind hdeclaration hbinding he'
      (hfield (hwithin.parent? hdeclaration) he' hexport (.inr hbinding))

/-! ## Both readings -/

/-- Whether an export exports variables by `default`, where it exports the function at a place. -/
def isDefaultVariable (e p : Place) : Bool := isDefault e.tree && !Naming.isDeclaration p.kind

/-- The exports of a text tell a function that one of its exports exports: by its name, or by
`default` if it is the value of a variable that is exported so. -/
theorem told_of_exports {source : SourceText} {t : SyntaxTree} {e p : Place} {name : String}
    (hfit : ∀ n ∈ t.nodes, DeclarationsFit n) (htop : e ∈ (Place.root t).children)
    (hkind : e.kind = "export_statement") (hp : Place.Within t p)
    (hname : Naming.name? source p = some name) (h : Exports e p) :
    if isDefaultVariable e p then exportedNames source e.tree = [defaultName]
    else name ∈ (ofTree source t).exports := by
  have hnamed : e.tree.info.named = true :=
    (hfit t t.self_mem_nodes).named _ (Place.tree_mem_children htop) (.inl hkind)
  cases h with
  | function hdeclaration he hfield =>
    have hdeclared : isDefaultVariable e p = false := by
      rw [isDefaultVariable, hdeclaration]
      exact Bool.and_false _
    rw [hdeclared, if_neg Bool.false_ne_true]
    exact exportedNames_subset htop hnamed hkind
      (mem_exportedNames_of_declaration (hp.child_of_parent he) hdeclaration hfield hname)
  | @value declarator declaration hexpr _ hdeclarator hvariable hdeclaration hbinding he hfield =>
    have hwithin := hp.parent? hdeclarator
    have hchild := hwithin.child_of_parent hdeclaration
    have hmarked : declarator.tree.info.named = true :=
      (hfit _ (SyntaxTree.mem_nodes_iff.mpr ⟨_, hwithin.parent? hdeclaration, rfl⟩)).named _
        (Place.tree_mem_children hchild) (.inr hvariable)
    obtain ⟨-, hbound⟩ := value_of_name? hexpr hdeclarator hvariable hname
    obtain ⟨hdefault, hplain⟩ := exportedNames_of_binding
      ((hwithin.parent? hdeclaration).child_of_parent he) hchild hbinding hfield hmarked hvariable
      hbound
    have hvalue : isDefaultVariable e p = isDefault e.tree := by
      rw [isDefaultVariable, Naming.not_declaration_of_expression hexpr]
      exact Bool.and_true _
    rw [hvalue]
    cases hcase : isDefault e.tree with
    | true => exact hdefault hcase
    | false => exact exportedNames_subset htop hnamed hkind (hplain hcase)

/-- **Both readings of exports agree.** The record of a function that an export at the top
exports is exported, and the exports of the text tell its name. And they tell the name of every
record that is exported, is no member of a class and has such an export as the nearest around
it. Only for variables that are exported by `default` they have that word and no names. -/
theorem exports_agree {source : SourceText} {t : SyntaxTree} {e p : Place} {f : FunctionInfo}
    (hfit : ∀ n ∈ t.nodes, DeclarationsFit n) (htop : e ∈ (Place.root t).children)
    (hkind : e.kind = "export_statement") (hp : Place.Within t p)
    (hf : FunctionInfo.at? source p = some f) :
    f ∈ FunctionInfo.listOf source t ∧
    (Exports e p → f.isExported = true) ∧
    (Exports e p ∨ f.isExported = true ∧ isClassMember p = false ∧
        p.ancestor? (·.kind == "export_statement") = some e →
      if isDefaultVariable e p then exportedNames source e.tree = [defaultName]
      else f.name ∈ (ofTree source t).exports) := by
  obtain ⟨name, hname, rfl⟩ := Option.map_eq_some_iff.mp hf
  refine ⟨?_, exportedAt_of_exports hkind, ?_⟩
  · rw [FunctionInfo.listOf_eq_filterMap, List.mem_filterMap]
    exact ⟨p, SyntaxTree.mem_visits_iff.mpr hp, hf⟩
  · rintro (h | ⟨hexported, hmember, hnearest⟩)
    · exact told_of_exports hfit htop hkind hp hname h
    · exact told_of_exports hfit htop hkind hp hname
        (exports_of_exportedAt hfit hp hname hexported hmember hnearest)

/-- The tree of an export of `const f=()=>1;`, which begins at an offset behind some words. -/
def exportedArrow (words : List SyntaxTree) (n : Nat) : SyntaxTree :=
  .onLine "program" none 0 (n + 14) [
    .onLine "export_statement" none 0 (n + 14) (words ++ [
      .onLine "lexical_declaration" (some "declaration") n (n + 14) [
        .node ⟨"const", false, some "kind", false, false, false, n, n + 5, ⟨0, n⟩, ⟨0, n + 5⟩⟩ [],
        .onLine "variable_declarator" none (n + 6) (n + 13) [
          .onLine "identifier" (some "name") (n + 6) (n + 7) [],
          .fixed "=" (n + 7) (n + 8),
          .onLine "arrow_function" (some "value") (n + 8) (n + 13) [
            .onLine "formal_parameters" (some "parameters") (n + 8) (n + 10) [
              .fixed "(" (n + 8) (n + 9),
              .fixed ")" (n + 9) (n + 10)],
            .fixed "=>" (n + 10) (n + 12),
            .onLine "number" (some "body") (n + 12) (n + 13) []]],
        .fixed ";" (n + 13) (n + 14)]])]

/-- The tree of `export const f=()=>1;`. -/
def namedArrow : SyntaxTree := exportedArrow [.fixed "export" 0 6] 7

/-- The tree of `export default const f=()=>1;`. -/
def defaultArrow : SyntaxTree := exportedArrow [.fixed "export" 0 6, .fixed "default" 7 14] 15

/-- The function is told as exported, and the exports tell its name. -/
theorem exports_agree_arrow :
    let source := SourceText.ofString "export const f=()=>1;"
    let e := namedArrow.placeAt 1
    let p := namedArrow.placeAt 8
    (∀ n ∈ namedArrow.nodes, DeclarationsFit n) ∧ e ∈ (Place.root namedArrow).children ∧
      e.kind = "export_statement" ∧ Place.Within namedArrow p ∧
      Exports e p ∧ ∃ f, FunctionInfo.at? source p = some f ∧ f.isExported = true ∧
        f.name = "f" ∧ f.name ∈ (ofTree source namedArrow).exports := by
  intro source e p
  have hfit : ∀ n ∈ namedArrow.nodes, DeclarationsFit n := by decide +kernel
  have htop : e ∈ (Place.root namedArrow).children := List.mem_singleton.mpr rfl
  have hp : Place.Within namedArrow p := SyntaxTree.mem_visits_iff.mp (namedArrow.placeAt_mem 8)
  have hexports : Exports e p :=
    @Exports.value e p (namedArrow.placeAt 5) (namedArrow.placeAt 3) rfl rfl rfl rfl rfl rfl rfl rfl
  have htold : (FunctionInfo.at? source p).map FunctionInfo.name = some "f" := by decide +kernel
  obtain ⟨f, hf, hname⟩ := Option.map_eq_some_iff.mp htold
  obtain ⟨-, hexported, htells⟩ := exports_agree hfit htop rfl hp hf
  have hplain : isDefaultVariable e p = false := by decide +kernel
  rw [hplain, if_neg Bool.false_ne_true] at htells
  exact ⟨hfit, htop, rfl, hp, hexports, f, hf, hexported hexports, hname, htells (.inl hexports)⟩

/-- The readings do not agree everywhere: the function in `export default const f=()=>1;` is told
as exported, and the exports of the text tell `default` only. -/
theorem default_variable_unnamed : ¬ ∀ (source : SourceText) (t : SyntaxTree) (e p : Place)
    (f : FunctionInfo), (∀ n ∈ t.nodes, DeclarationsFit n) → e ∈ (Place.root t).children →
    e.kind = "export_statement" → Place.Within t p → FunctionInfo.at? source p = some f →
    (Exports e p → f.isExported = true ∧ f.name ∈ (ofTree source t).exports) ∧
    (f.isExported = true → isClassMember p = false →
      p.ancestor? (·.kind == "export_statement") = some e →
        f.name ∈ (ofTree source t).exports) := by
  intro h
  let source := SourceText.ofString "export default const f=()=>1;"
  have hexports : Exports (defaultArrow.placeAt 1) (defaultArrow.placeAt 9) :=
    @Exports.value _ _ (defaultArrow.placeAt 6) (defaultArrow.placeAt 4)
      rfl rfl rfl rfl rfl rfl rfl rfl
  have htold : (FunctionInfo.at? source (defaultArrow.placeAt 9)).map FunctionInfo.name =
      some "f" := by decide +kernel
  obtain ⟨f, hf, hname⟩ := Option.map_eq_some_iff.mp htold
  obtain ⟨hagree, -⟩ := h source defaultArrow (defaultArrow.placeAt 1) (defaultArrow.placeAt 9) f
    (by decide +kernel) (List.mem_singleton.mpr rfl) rfl
    (SyntaxTree.mem_visits_iff.mp (defaultArrow.placeAt_mem 9)) hf
  have honly : (ofTree source defaultArrow).exports = ["default"] := by decide +kernel
  have hmem := (hagree hexports).2
  rw [honly, hname] at hmem
  exact absurd hmem (by decide)

end ModuleSurface

end CallAtlas
