import CallAtlas.Analysis.Source
import CallAtlas.Grammar.JavaScript
import CallAtlas.Grammar.TypeScript
import CallAtlas.Proofs.NameForms
import CallAtlas.Proofs.Resemblance

/-!
# Every function with a name, once

The cursor comes to the places of a tree one by one: after `n` moves it stands on the place
with the number `n` in preorder, and there are as many moves as places
(`Cursor.moved_place`). So what the walk collects is one record for each place of a function
that has a name, and no other.

Two things depend on the grammars. A variable gives its name as it is, so names are not empty
only because identifiers are not (`Naming.ne_empty_of_name?`). And the kind of the keyword
`function` is a kind of functions: it is no function because it stands only where the rules of
the grammars have it, and those of the nodes that give names do not
(`Dialect.no_keyword_in_namers`).
-/

namespace CallAtlas

/-! ## The moves of the cursor -/

namespace Cursor

/-- The cursor after some moves to the next place in preorder. -/
def moved : Nat → Cursor → Option Cursor
  | 0, c => some c
  | n + 1, c => c.advance.bind (moved n)

/-- A cursor moves along what is at and below its place and after that what follows. -/
theorem moved_following (n : Nat) (c : Cursor) :
    (c.moved n).map place = (c.place.subtree ++ c.following)[n]? := by
  induction n generalizing c with
  | zero =>
    rw [advance_spec c]
    rfl
  | succ n ih =>
    rw [advance_spec c, moved, List.getElem?_cons_succ]
    cases c.advance with
    | none => rfl
    | some d => exact ih d

/-- After as many moves as there are places, and not before, the walk is over. -/
theorem moved_place (t : SyntaxTree) (n : Nat) :
    ((ofRoot t).moved n).map place = t.visits[n]? := by
  rw [moved_following, SyntaxTree.visits_eq_subtree]
  simp [ofRoot, following, followingFrom, Place.root]

end Cursor

namespace Place

/-- A place in a tree is a child of its parent. -/
theorem Within.mem_children {t : SyntaxTree} {p parent : Place} (hp : Within t p)
    (hparent : p.parent? = some parent) : p.tree ∈ parent.tree.children := by
  cases hp with
  | root => cases hparent
  | @child q _ _ hq =>
    obtain ⟨before, habove⟩ := above_of_mem_children hq
    rw [Place.parent?, habove] at hparent
    obtain rfl := Option.some.inj hparent
    rw [← q.children_map_tree]
    exact List.mem_map_of_mem hq

end Place

/-! ## Names are not empty -/

namespace Naming

theorem append_ne_empty {front back : String} (h : back ≠ "") : front ++ back ≠ "" := by
  intro hempty
  have hlist := congrArg String.toList hempty
  rw [String.toList_append] at hlist
  exact h (String.toList_eq_nil_iff.mp (List.append_eq_nil_iff.mp hlist).2)

/-- A key that is not empty stays so behind an owner. -/
theorem qualify_ne_empty (owner : Option String) {key : String} (h : key ≠ "") :
    qualify owner key ≠ "" := by
  cases owner with
  | none => exact h
  | some owner => exact append_ne_empty h

theorem callbackName_ne_empty (binding : Option String) (target : String) :
    callbackName binding target ≠ "" := append_ne_empty (by decide)

theorem ne_empty_of_textOf? {source : SourceText} {t : SyntaxTree} {text : String}
    (h : textOf? source t = some text) : text ≠ "" := by
  rintro rfl
  exact absurd (textOf?_eq_some h).2 (by decide)

/-- A name that is written at a node is not empty: empty texts are not taken. -/
theorem ne_empty_of_writtenName? {source : SourceText} {t : SyntaxTree} {text : String}
    (h : writtenName? source t = some text) : text ≠ "" := by
  obtain ⟨name, -, htext⟩ := Option.bind_eq_some_iff.mp h
  exact ne_empty_of_textOf? htext

theorem handlerName_ne_empty (source : SourceText) (attr : Place) :
    handlerName source attr ≠ "" := by
  have hname : ∀ {name : String}, attributeName? source attr = some name → name ≠ "" := by
    intro name h
    obtain ⟨first, -, h⟩ := Option.bind_eq_some_iff.mp h
    split at h
    · exact ne_empty_of_textOf? h
    · cases h
  rw [handlerName_eq]
  split
  · next h => exact append_ne_empty (hname h)
  · exact append_ne_empty (by decide)
  · decide

/-- If identifiers are not empty, no name is. -/
theorem ne_empty_of_name? {source : SourceText} {t : SyntaxTree} {p : Place} {name : String}
    (hwords : ∀ n ∈ t.nodes, n.kind = "identifier" → n.text source ≠ "")
    (hp : Place.Within t p) (h : name? source p = some name) : name ≠ "" := by
  cases origin_of_name? h with
  | declaration _ hname => exact ne_empty_of_writtenName? hname
  | method _ _ hkey => exact qualify_ne_empty _ (ne_empty_of_writtenName? hkey)
  | bound _ hparent _ hname =>
    obtain ⟨node, hnode, hkind, rfl⟩ := boundName?_eq_some hname
    exact hwords node (SyntaxTree.mem_nodes_of_child (hp.parent? hparent)
      (SyntaxTree.child?_mem hnode)) hkind
  | field _ _ _ _ hkey => exact qualify_ne_empty _ (ne_empty_of_writtenName? hkey)
  | pair _ _ _ _ hkey =>
    obtain ⟨key, -, htext⟩ := Option.bind_eq_some_iff.mp hkey
    exact qualify_ne_empty _ (ne_empty_of_textOf? htext)
  | argument => exact callbackName_ne_empty _ _
  | handler => exact handlerName_ne_empty source _

end Naming

/-! ## The keyword -/

namespace Grammar

/-- Whether a fixed text is a step of the rule of a kind of nodes. -/
def hasText (g : Grammar) (kind text : String) : Bool :=
  (g.rule kind).leaves.contains (.token (.literal text))

/-- Whether the keywords `function` under a node are steps of its rule. -/
def seatsKeyword (g : Grammar) (n : SyntaxTree) : Bool :=
  n.children.all fun c => c.info.named || c.kind != "function" || g.hasText n.kind "function"

end Grammar

namespace Dialect

/-- The grammar of a dialect. -/
def grammar : Dialect → Grammar
  | tsx => Grammar.TypeScript.grammar true
  | typescript => Grammar.TypeScript.grammar false
  | javascript => Grammar.JavaScript.grammar

end Dialect

namespace Naming

/-- Kinds of nodes that give a name to a function under them. -/
def namers : List String :=
  ["variable_declarator", "pair", "arguments", "jsx_expression"] ++ fields

/-- Only these nodes give names. -/
theorem valueName?_of_other {source : SourceText} {p parent : Place}
    (h : namers.contains parent.kind = false) : valueName? source p parent = none := by
  have hnot : ∀ kind ∈ namers, parent.kind ≠ kind := by
    rintro kind hkind rfl
    exact Bool.false_ne_true (h.symm.trans (List.contains_iff_mem.mpr hkind))
  have hfields : fields.contains parent.kind ≠ true := by
    intro hfield
    exact hnot _ (List.mem_append_right _ (List.contains_iff_mem.mp hfield)) rfl
  rw [valueName?, if_neg (hnot _ (by decide)), if_neg hfields, if_neg (hnot _ (by decide)),
    if_neg (hnot _ (by decide)), if_neg (hnot _ (by decide))]

end Naming

/-- In no dialect does the rule of a node that gives names have the keyword in it. -/
theorem Dialect.no_keyword_in_namers (d : Dialect) :
    ∀ kind ∈ Naming.namers, d.grammar.hasText kind "function" = false := by
  cases d <;> decide +kernel

/-- The keyword `function` has no name. -/
theorem Naming.name?_of_keyword {source : SourceText} {t : SyntaxTree} {d : Dialect} {p : Place}
    (hseats : ∀ n ∈ t.nodes, d.grammar.seatsKeyword n = true) (hp : Place.Within t p)
    (hfixed : p.tree.info.named = false) (hkind : p.kind = "function") :
    name? source p = none := by
  rw [name?_of_expression source (by rw [hkind]; decide)]
  cases hparent : p.parent? with
  | none => rfl
  | some parent =>
    have hnode := hseats parent.tree (SyntaxTree.mem_nodes_iff.mpr ⟨parent, hp.parent? hparent, rfl⟩)
    have hrule : d.grammar.hasText parent.kind "function" = true := by
      have hkeyword := List.all_eq_true.mp hnode p.tree (hp.mem_children hparent)
      rwa [hfixed, show p.tree.kind = "function" from hkind, Bool.false_or, bne_self_eq_false,
        Bool.false_or] at hkeyword
    -- the rule of the parent has the keyword, but those of nodes that give names do not
    refine valueName?_of_other (Bool.eq_false_iff.mpr fun hnamer => ?_)
    have hnone := d.no_keyword_in_namers parent.kind (List.contains_iff_mem.mp hnamer)
    exact Bool.false_ne_true (hnone.symm.trans hrule)

namespace FunctionInfo

/-- Whether there is a function with a name at a place. -/
def isNamed (source : SourceText) (p : Place) : Bool :=
  Naming.isFunction p.kind && (Naming.name? source p).isSome

/-- What a place tells: its name, and the function with this name there. -/
def TellsOf (source : SourceText) (p : Place) (f : FunctionInfo) : Prop :=
  Naming.name? source p = some f.name ∧ f = ofPlace source f.name p

theorem at?_of_not_named {source : SourceText} {p : Place} (h : isNamed source p = false) :
    at? source p = none := by
  cases hname : Naming.name? source p with
  | none => rw [at?, hname, Option.map_none]
  | some name =>
    rw [isNamed, hname, CallSite.isFunction_of_name? hname] at h
    cases h

/-- A function with a name has a record, which tells of its place. -/
theorem at?_of_named {source : SourceText} {p : Place} (h : isNamed source p = true) :
    ∃ f, at? source p = some f ∧ TellsOf source p f := by
  obtain ⟨name, hname⟩ := Option.isSome_iff_exists.mp (Bool.and_eq_true_iff.mp h).2
  exact ⟨ofPlace source name p, by rw [at?, hname, Option.map_some], hname, rfl⟩

/-- One record for each place of a function with a name. -/
theorem filterMap_at?_tells (source : SourceText) (ps : List Place) :
    List.Forall₂ (TellsOf source) (ps.filter (isNamed source)) (ps.filterMap (at? source)) := by
  induction ps with
  | nil => exact .nil
  | cons p ps ih =>
    cases hnamed : isNamed source p with
    | false =>
      rw [List.filter_cons_of_neg (Bool.not_eq_true _ ▸ hnamed),
        List.filterMap_cons_none (at?_of_not_named hnamed)]
      exact ih
    | true =>
      obtain ⟨f, hat, htells⟩ := at?_of_named hnamed
      rw [List.filter_cons_of_pos hnamed, List.filterMap_cons_some hat]
      exact .cons htells ih

/-- **Every function with a name, once.** The cursor goes through all places of a tree in the
order of the text and then stops. There is one record for each place of a function with a name,
in this order, and it tells what is there: just what the recursion over the tree collects. If
identifiers are not empty, no name is; and where the keywords `function` stand only where the
rules of a dialect have them, none of them is a function with a name. -/
theorem listOf_each_once (source : SourceText) (t : SyntaxTree) (d : Dialect) :
    (∀ n, ((Cursor.ofRoot t).moved n).map Cursor.place = t.visits[n]?) ∧
    (t.visits.Pairwise fun a b => a.address < b.address) ∧
    (∀ p, p ∈ t.visits ↔ Place.Within t p) ∧
    List.Forall₂ (TellsOf source) (t.visits.filter (isNamed source)) (listOf source t) ∧
    listOf source t = t.collect (fun _ _ => ()) (fun _ p => at? source p) () [] ∧
    ((∀ n ∈ t.nodes, n.kind = "identifier" → n.text source ≠ "") →
      ∀ f ∈ listOf source t, f.name ≠ "") ∧
    ((∀ n ∈ t.nodes, d.grammar.seatsKeyword n = true) → ∀ p, Place.Within t p →
      p.tree.info.named = false → p.kind = "function" → isNamed source p = false) := by
  have hlist := listOf_eq_filterMap source t
  refine ⟨Cursor.moved_place t, t.visits_increasing, fun p => SyntaxTree.mem_visits_iff, ?_, ?_,
    fun hwords f hf => ?_, fun hseats p hp hfixed hkind => ?_⟩
  · rw [hlist]
    exact filterMap_at?_tells source t.visits
  · have hcollect : (Place.root t).collect (fun (_ : Unit) _ => ()) (fun _ p => at? source p) () =
        t.visits.filterMap (at? source) :=
      Place.collect_eq_filterMap (fun _ => ()) (fun _ _ _ => rfl) _
    exact hlist.trans hcollect.symm
  · rw [hlist] at hf
    obtain ⟨p, hp, hat⟩ := List.mem_filterMap.mp hf
    obtain ⟨name, hname, rfl⟩ := Option.map_eq_some_iff.mp hat
    exact Naming.ne_empty_of_name? hwords (SyntaxTree.mem_visits_iff.mp hp) hname
  · rw [isNamed, Naming.name?_of_keyword hseats hp hfixed hkind]
    exact Bool.and_false _

/-- The tree of `var g=function(){}`. -/
def boundExpression : SyntaxTree :=
  .onLine "program" none 0 18 [
    .onLine "variable_declaration" none 0 18 [
      .fixed "var" 0 3,
      .onLine "variable_declarator" none 4 18 [
        .onLine "identifier" (some "name") 4 5 [],
        .fixed "=" 5 6,
        .onLine "function_expression" (some "value") 6 18 [
          .fixed "function" 6 14,
          .onLine "formal_parameters" (some "parameters") 14 16 [
            .fixed "(" 14 15,
            .fixed ")" 15 16],
          .onLine "statement_block" (some "body") 16 18 [
            .fixed "\x7b" 16 17,
            .fixed "\x7d" 17 18]]]]]

/-- The place of the keyword in it. -/
def boundKeyword : Place := boundExpression.placeAt 7

/-- The function has the name of its variable, and the keyword in it has none. -/
theorem listOf_each_once_bound :
    let source := SourceText.ofString "var g=function(){}"
    (∀ n ∈ boundExpression.nodes, n.kind = "identifier" → n.text source ≠ "") ∧
    (∀ n ∈ boundExpression.nodes, Dialect.tsx.grammar.seatsKeyword n = true) ∧
    Place.Within boundExpression boundKeyword ∧
    boundKeyword.tree.info.named = false ∧ boundKeyword.kind = "function" ∧
    isNamed source boundKeyword = false ∧
    (listOf source boundExpression).map FunctionInfo.name = ["g"] ∧
    ∀ f ∈ listOf source boundExpression, f.name ≠ "" := by
  intro source
  have hwords : ∀ n ∈ boundExpression.nodes, n.kind = "identifier" → n.text source ≠ "" := by
    decide +kernel
  have hseats : ∀ n ∈ boundExpression.nodes, Dialect.tsx.grammar.seatsKeyword n = true := by
    decide +kernel
  have hfixed : boundKeyword.tree.info.named = false := by decide +kernel
  have hkind : boundKeyword.kind = "function" := by decide +kernel
  obtain ⟨-, -, hwithin, -, hcollect, hnames, hkeyword⟩ :=
    listOf_each_once source boundExpression .tsx
  have hplace := (hwithin _).mp (boundExpression.placeAt_mem 7)
  refine ⟨hwords, hseats, hplace, hfixed, hkind, hkeyword hseats _ hplace hfixed hkind, ?_,
    hnames hwords⟩
  rw [hcollect]
  decide +kernel

end FunctionInfo

end CallAtlas
