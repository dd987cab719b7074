import CallAtlas.Proofs.NameForms
import CallAtlas.Proofs.Resemblance

/-!
# Groups tell forms

A grid sorts functions into groups by their names. What it goes by are three properties of
a name: a point in it, the ending of a handler, and a target in parentheses at its end. So
the group of a function follows from the way in which its name is put together
(`Naming.Form`).

The tokens have to be such as grammars have them (`Naming.tokensFit`): in a key that has
blanks, quotes or brackets are around them. Then only the values of attributes are shown
among the handlers, but not all of them. Where both the attribute and its element are
named, the name of the function has a point in it, and the function is shown among the
methods.
-/

namespace CallAtlas

namespace Naming

/-! ## Properties of names -/

theorem afterLast?_go_isSome_iff {mark : List Char} (hmark : mark ≠ []) (cs : List Char) :
    ∀ last, (afterLast?.go mark last cs).isSome = true ↔ last.isSome = true ∨ mark <:+: cs := by
  induction cs with
  | nil =>
    intro last
    rw [afterLast?.go, List.infix_nil]
    exact ⟨.inl, fun h => h.resolve_right hmark⟩
  | cons c cs ih =>
    intro last
    rw [afterLast?.go, ih, List.infix_cons_iff]
    cases hhead : mark.isPrefixOf (c :: cs) with
    | true =>
      have hprefix := List.isPrefixOf_iff_prefix.mp hhead
      exact ⟨fun _ => .inr (.inl hprefix), fun _ => .inl rfl⟩
    | false =>
      have hprefix : ¬ mark <+: c :: cs := fun h =>
        Bool.false_ne_true (hhead.symm.trans (List.isPrefixOf_iff_prefix.mpr h))
      rw [if_neg Bool.false_ne_true]
      exact or_congr_right (or_iff_right hprefix).symm

/-- Something stands behind a mark just if the text holds the mark. -/
theorem afterLast?_isSome_iff {mark : List Char} (hmark : mark ≠ []) (cs : List Char) :
    (afterLast? mark cs).isSome = true ↔ mark <:+: cs := by
  rw [afterLast?, afterLast?_go_isSome_iff hmark]
  exact or_iff_right Bool.false_ne_true

/-! ## What grammars guarantee -/

/-- Whether a text has none of some marks. -/
def lacks (marks : List Char) (text : String) : Bool := text.toList.all fun c => !marks.contains c

/-- Kinds of nodes that are one word. -/
def words : List String := ["identifier", "property_identifier", "private_property_identifier"]

/-- Marks that nodes of a kind have nowhere in their text. -/
def strangers (kind : String) : List Char :=
  if words.contains kind then [' ', '.', '(', ')']
  else if kind = "jsx_namespace_name" then ['.', '(', ')']
  else []

/-- Whether a text can be a key: one with blanks has quotes or brackets around it. -/
def isKey (text : String) : Bool := lacks [' '] text || !text.toList.getLast?.any Char.isAlpha

/-- Whether the tokens at a node are such as grammars have them. -/
def tokensFit (source : SourceText) (n : SyntaxTree) : Bool :=
  lacks (strangers n.kind) (n.text source) &&
  (!isDeclaration n.kind || (n.child? "name").all (·.kind == "identifier")) &&
  (keyOf? n).all fun key => isKey (key.text source)

/-- What `lacks` says of each mark. -/
theorem not_mem_of_lacks {marks : List Char} {text : String} (h : lacks marks text = true)
    {c : Char} (hc : c ∈ marks) : c ∉ text.toList := by
  intro hmem
  have hlack := List.all_eq_true.mp h c hmem
  rw [List.contains_iff_mem.mpr hc] at hlack
  cases hlack

theorem last_append (front : String) {back : String} {c : Char}
    (h : back.toList.getLast? = some c) : (front ++ back).toList.getLast? = some c := by
  rw [String.toList_append, List.getLast?_append, h]
  rfl

/-- A key has no blank in it, or ends with something that is no letter. -/
theorem isKey_cases {text : String} (h : isKey text = true) :
    ' ' ∉ text.toList ∨ ∃ c, text.toList.getLast? = some c ∧ c.isAlpha = false := by
  rw [isKey, Bool.or_eq_true] at h
  rcases h with hlacks | hend
  · exact .inl (not_mem_of_lacks hlacks (List.mem_singleton_self _))
  · cases hlast : text.toList.getLast? with
    | none =>
      rw [List.getLast?_eq_none_iff.mp hlast]
      exact .inl List.not_mem_nil
    | some c =>
      rw [hlast] at hend
      exact .inr ⟨c, rfl, by simpa using hend⟩

section Fit

variable {source : SourceText} {n : SyntaxTree} (h : tokensFit source n = true)

include h

/-- A node of a fitting tree has none of the strangers of its kind in its text. -/
theorem not_mem_of_stranger {c : Char} (hc : c ∈ strangers n.kind) :
    c ∉ (n.text source).toList := by
  rw [tokensFit, Bool.and_eq_true, Bool.and_eq_true] at h
  exact not_mem_of_lacks h.1.1 hc

theorem kind_of_declared {name : SyntaxTree} (hkind : isDeclaration n.kind = true)
    (hname : n.child? "name" = some name) : name.kind = "identifier" := by
  rw [tokensFit, Bool.and_eq_true, Bool.and_eq_true, hkind, hname] at h
  exact beq_iff_eq.mp h.1.2

theorem isKey_of_keyOf? {key : SyntaxTree} (hkey : keyOf? n = some key) :
    isKey (key.text source) = true := by
  rw [tokensFit, Bool.and_eq_true, hkey] at h
  exact h.2

end Fit

/-- The name of an attribute has no marks in it by which names are told apart. -/
theorem strangers_of_attributeName {kind : String} (h : attributeNames.contains kind = true) :
    '.' ∈ strangers kind ∧ ')' ∈ strangers kind := by
  have hkinds : ∀ k ∈ attributeNames, '.' ∈ strangers k ∧ ')' ∈ strangers k := by decide
  exact hkinds kind (List.contains_iff_mem.mp h)

end Naming

namespace NodeGroup

open Naming

/-- A composed name ends with a parenthesis, and somewhere in it one is opened behind a blank. -/
theorem isComposed_iff (name : String) :
    isComposed name = true ↔ name.toList.getLast? = some ')' ∧ [' ', '('] <:+: name.toList := by
  rw [isComposed, Bool.and_eq_true, beq_iff_eq, afterLast?_isSome_iff (by decide)]

/-- A target behind a binding makes a composed name. -/
theorem isComposed_callbackName (binding : Option String) (target : String) :
    isComposed (callbackName binding target) = true := by
  have htext : (callbackName binding target).toList =
      ((binding.getD callbackLabel).toList ++ [' ', '('] ++ target.toList) ++ [')'] := by
    simp [callbackName]
  rw [isComposed_iff, htext, List.getLast?_concat]
  exact ⟨rfl, (binding.getD callbackLabel).toList, target.toList ++ [')'], by simp⟩

/-- Only composed names have a target. -/
theorem isComposed_of_targetOf? {name : String} {target : List Char}
    (h : targetOf? name = some target) : isComposed name = true := by
  unfold targetOf? at h
  split at h
  · next rest hreverse =>
    have htext : name.toList = rest.reverse ++ [')'] := by
      rw [← List.reverse_reverse name.toList, hreverse, List.reverse_cons]
    have hmark : [' ', '('] <:+: rest.reverse :=
      (afterLast?_isSome_iff (by decide) _).mp (by rw [h]; rfl)
    rw [isComposed_iff, htext, List.getLast?_concat]
    exact ⟨rfl, hmark.trans (List.prefix_append _ _).isInfix⟩
  · cases h

/-- Only composed names tell of a hook. -/
theorem isComposed_of_hook? {name hook : String} (h : hook? name = some hook) :
    isComposed name = true := by
  obtain ⟨target, htarget, -⟩ := Option.bind_eq_some_iff.mp h
  exact isComposed_of_targetOf? htarget

/-- The names of hooks are all composed. -/
theorem isComposed_of_hookIndex? {name : String} {i : Nat} (h : hookIndex? name = some i) :
    isComposed name = true := by
  obtain ⟨hook, hhook, -⟩ := Option.bind_eq_some_iff.mp h
  exact isComposed_of_hook? hhook

/-- The name of a handler is told by its ending. -/
theorem isHandlerName_iff (name : String) :
    isHandlerName name = true ↔ handlerSuffix.toList <:+ name.toList := by
  rw [isHandlerName, Bool.or_eq_true, beq_iff_eq, List.isPrefixOf_iff_prefix,
    List.reverse_prefix]
  constructor
  · rintro (rfl | h)
    · decide
    · exact h
  · exact .inr

theorem last_of_isHandlerName {name : String} (h : isHandlerName name = true) :
    name.toList.getLast? = some 'r' := by
  obtain ⟨front, hfront⟩ := (isHandlerName_iff name).mp h
  rw [← hfront, List.getLast?_append]
  rfl

/-- A key does not make the name of a handler, whatever stands before it. -/
theorem not_handler_of_key (owner : Option String) {key : String} (h : isKey key = true) :
    isHandlerName (qualify owner key) = false := by
  rw [Bool.eq_false_iff]
  intro hhandler
  have hsuffix := (isHandlerName_iff _).mp hhandler
  have hlast := last_of_isHandlerName hhandler
  rcases isKey_cases h with hblank | ⟨c, hc, hmark⟩
  · cases owner with
    | none => exact hblank (hsuffix.subset (by decide))
    | some owner =>
      have htext : (qualify (some owner) key).toList = owner.toList ++ '.' :: key.toList := by
        simp [qualify]
      rw [htext] at hsuffix
      -- the ending is no part of the key, so it would have the point in it
      rcases List.suffix_or_suffix_of_suffix hsuffix (List.suffix_append _ _) with hin | hover
      · rcases List.suffix_cons_iff.mp hin with heq | hin
        · exact absurd (List.head_eq_of_cons_eq heq) (by decide)
        · exact hblank (hin.subset (by decide))
      · have hpoint : '.' ∈ handlerSuffix.toList := hover.subset (List.mem_cons_self ..)
        exact absurd hpoint (by decide)
  · have hend : (qualify owner key).toList.getLast? = some c := by
      cases owner with
      | none => exact hc
      | some owner => exact last_append (owner ++ ".") hc
    obtain rfl := Option.some.inj (hend.symm.trans hlast)
    exact absurd hmark (by decide)

/-- A name has one ending only. -/
theorem not_composed_of_isHandlerName {name : String} (h : isHandlerName name = true) :
    isComposed name = false := by
  rw [Bool.eq_false_iff]
  intro hcomposed
  have hlast := ((isComposed_iff name).mp hcomposed).1.symm.trans (last_of_isHandlerName h)
  exact absurd (Option.some.inj hlast) (by decide)

/-- A name that ends with a text without parentheses is not composed. -/
theorem not_composed_append (front : String) {back : String} (hback : back.isEmpty = false)
    (hmark : ')' ∉ back.toList) : isComposed (front ++ back) = false := by
  rw [Bool.eq_false_iff]
  intro hcomposed
  have hlast := ((isComposed_iff _).mp hcomposed).1
  cases hend : back.toList.getLast? with
  | some c =>
    obtain rfl := Option.some.inj ((last_append front hend).symm.trans hlast)
    exact hmark (List.mem_of_getLast? hend)
  | none =>
    have hempty : back = "" := String.toList_eq_nil_iff.mp (List.getLast?_eq_none_iff.mp hend)
    rw [hempty] at hback
    cases hback

/-- The methods are the names with a point. -/
theorem isMemberName_iff (name : String) :
    FunctionInfo.isMemberName name = true ↔ '.' ∈ name.toList := by
  rw [FunctionInfo.isMemberName, String.any, String.contains_bool_eq, List.any_eq_true]
  simp only [beq_iff_eq, exists_eq_right]

theorem not_member_iff {name : String} :
    FunctionInfo.isMemberName name = false ↔ '.' ∉ name.toList := by
  rw [← isMemberName_iff, Bool.not_eq_true]

/-! ## Groups of names -/

section Groups

variable {f : FunctionInfo} (hexported : f.isExported = false) (hasync : f.isAsync = false)

include hexported hasync

/-- Methods are the functions with a point in a name that is not composed. -/
theorem ofFunction_eq_method_iff :
    ofFunction f = .method ↔ f.isMethod = true ∧ isComposed f.name = false := by
  unfold ofFunction
  grind

/-- Handlers are the functions with the name of a handler that has no point in it. -/
theorem ofFunction_eq_handler_iff :
    ofFunction f = .handler ↔ f.isMethod = false ∧ isHandlerName f.name = true := by
  have hplain : isHandlerName f.name = true → isComposed f.name = false :=
    not_composed_of_isHandlerName
  have hhook : isComposed f.name = false → hookIndex? f.name = none := by
    intro hcomposed
    cases hindex : hookIndex? f.name with
    | none => rfl
    | some i => exact absurd (isComposed_of_hookIndex? hindex) (Bool.eq_false_iff.mp hcomposed)
  unfold ofFunction
  grind

end Groups

/-! ## Groups of forms -/

section Forms

variable {source : SourceText} {t : SyntaxTree} {p : Place}

/-- Whether an attribute and its element are both named. -/
def isTagged (source : SourceText) (attr : Place) : Bool :=
  (elementName? source attr).isSome && (attributeName? source attr).isSome

/-- What is above the function in an attribute. -/
theorem attribute?_eq_some {attr : Place} (h : attribute? p = some attr) :
    ∃ parent, p.parent? = some parent ∧ parent.parent? = some attr ∧
      isExpression p.kind = true ∧ parent.kind = "jsx_expression" ∧
      attr.kind = "jsx_attribute" := by
  obtain ⟨parent, hparent, h⟩ := Option.bind_eq_some_iff.mp h
  obtain ⟨above, habove, h⟩ := Option.bind_eq_some_iff.mp h
  split at h
  · next hkinds =>
    obtain rfl := Option.some.inj h
    simp only [Bool.and_eq_true, beq_iff_eq] at hkinds
    exact ⟨parent, hparent, habove, hkinds.1.1, hkinds.1.2, hkinds.2⟩
  · cases h

/-- The attribute around a value is in the tree. -/
theorem within_of_attribute? {attr : Place} (hp : Place.Within t p)
    (h : attribute? p = some attr) : Place.Within t attr := by
  obtain ⟨parent, hparent, habove, -⟩ := attribute?_eq_some h
  exact (hp.parent? hparent).parent? habove

/-- The value of an attribute is always named, and that for the attribute. -/
theorem name?_of_attribute {attr : Place} (h : attribute? p = some attr) :
    name? source p = some (handlerName source attr) := by
  obtain ⟨parent, hparent, habove, hexpr, hkind, hattribute⟩ := attribute?_eq_some h
  rw [name?_of_expression source hexpr, hparent, Option.bind_some, valueName?, hkind,
    if_neg (by decide), if_neg (by decide), if_neg (by decide), if_neg (by decide),
    if_pos rfl, habove]
  exact if_pos hattribute

variable (hfit : ∀ n ∈ t.nodes, tokensFit source n = true) (hp : Place.Within t p)

include hfit hp

/-- The name of an attribute is not empty and has no marks in it that tell names apart. -/
theorem attributeName?_spec {name : String} (h : attributeName? source p = some name) :
    name.isEmpty = false ∧ '.' ∉ name.toList ∧ ')' ∉ name.toList := by
  obtain ⟨first, hfirst, h⟩ := Option.bind_eq_some_iff.mp h
  split at h
  · next hkind =>
    obtain ⟨rfl, hempty⟩ := textOf?_eq_some h
    have hchild : first ∈ p.tree.children :=
      List.mem_of_mem_filter (List.mem_of_head? hfirst)
    have htokens := hfit first (SyntaxTree.mem_nodes_of_child hp hchild)
    obtain ⟨hpoint, hclose⟩ := strangers_of_attributeName hkind
    exact ⟨hempty, not_mem_of_stranger htokens hpoint, not_mem_of_stranger htokens hclose⟩
  · cases h

/-- Where both an attribute and its element are named, the function looks like a method. -/
theorem method_of_tagged (h : isTagged source p = true) :
    FunctionInfo.isMemberName (handlerName source p) = true ∧
      isComposed (handlerName source p) = false := by
  rw [isTagged, Bool.and_eq_true, Option.isSome_iff_exists, Option.isSome_iff_exists] at h
  obtain ⟨⟨tag, htag⟩, name, hname⟩ := h
  obtain ⟨hempty, -, hclose⟩ := attributeName?_spec hfit hp hname
  have htext : handlerName source p = tag ++ "." ++ name := by
    rw [handlerName_eq, htag, hname]
  rw [htext, isMemberName_iff]
  refine ⟨?_, not_composed_append (tag ++ ".") hempty hclose⟩
  simp

/-- Where one of them is not named, it looks like a handler. -/
theorem handler_of_untagged (h : isTagged source p = false) :
    FunctionInfo.isMemberName (handlerName source p) = false ∧
      isHandlerName (handlerName source p) = true := by
  rw [handlerName_eq]
  cases hname : attributeName? source p with
  | none =>
    have hlabel : FunctionInfo.isMemberName handlerLabel = false ∧
        isHandlerName handlerLabel = true := ⟨not_member_iff.mpr (by decide), rfl⟩
    cases elementName? source p with
    | none => exact hlabel
    | some tag => exact hlabel
  | some name =>
    cases htag : elementName? source p with
    | some tag =>
      rw [isTagged, htag, hname] at h
      cases h
    | none =>
      obtain ⟨-, hpoint, -⟩ := attributeName?_spec hfit hp hname
      refine ⟨?_, ?_⟩
      · rw [not_member_iff, String.toList_append, List.mem_append, not_or]
        exact ⟨hpoint, by decide⟩
      · rw [isHandlerName_iff, String.toList_append]
        exact List.suffix_append _ _

/-- Functions elsewhere do not look like handlers, and if they look like methods, they are
members. -/
theorem form_elsewhere {name : String} (hform : Form source p name)
    (helsewhere : attribute? p = none) :
    isHandlerName name = false ∧
      (FunctionInfo.isMemberName name = true → isComposed name = false → isMember p = true) := by
  -- an identifier has no blank, which handlers have, and no point, which methods have
  have hword : ∀ {n : SyntaxTree}, n ∈ t.nodes → n.kind = "identifier" →
      isHandlerName (n.text source) = false ∧
        (FunctionInfo.isMemberName (n.text source) = true →
          isComposed (n.text source) = false → isMember p = true) := by
    intro n hn hkind
    have hstrange : ∀ c ∈ strangers "identifier", c ∉ (n.text source).toList := by
      intro c hc
      refine not_mem_of_stranger (hfit n hn) ?_
      rw [hkind]
      exact hc
    refine ⟨?_, fun hmember => ?_⟩
    · rw [Bool.eq_false_iff]
      intro hhandler
      exact hstrange ' ' (by decide) (((isHandlerName_iff _).mp hhandler).subset (by decide))
    · exact absurd ((isMemberName_iff _).mp hmember) (hstrange '.' (by decide))
  cases hform with
  | @declared node hdeclaration hnode =>
    have htokens := hfit p.tree (SyntaxTree.mem_nodes_iff.mpr ⟨p, hp, rfl⟩)
    exact hword (SyntaxTree.mem_nodes_of_child hp (SyntaxTree.child?_mem hnode))
      (kind_of_declared htokens hdeclaration hnode)
  | @bound parent node hparent hkind hnode hidentifier =>
    exact hword (SyntaxTree.mem_nodes_of_child (hp.parent? hparent) (SyntaxTree.child?_mem hnode))
      hidentifier
  | @member node key owner hmember hnode hkey =>
    have hin : node ∈ t.nodes := by
      rcases hnode with rfl | ⟨parent, hparent, rfl⟩
      · exact SyntaxTree.mem_nodes_iff.mpr ⟨p, hp, rfl⟩
      · exact SyntaxTree.mem_nodes_iff.mpr ⟨parent, hp.parent? hparent, rfl⟩
    exact ⟨not_handler_of_key owner (isKey_of_keyOf? (hfit node hin) hkey), fun _ _ => hmember⟩
  | argument binding target =>
    -- a composed name ends with a parenthesis, so it is neither
    have hcomposed := isComposed_callbackName binding target
    refine ⟨?_, fun _ hnot => absurd (hcomposed.symm.trans hnot).symm Bool.false_ne_true⟩
    rw [Bool.eq_false_iff]
    intro hhandler
    exact Bool.false_ne_true ((not_composed_of_isHandlerName hhandler).symm.trans hcomposed)
  | handler hattr => cases helsewhere.symm.trans hattr

end Forms

/-- **What the group of a function tells about its form.** Of the functions that are
neither exported nor asynchronous, the handlers are the values of those attributes that are
not named together with their element. Methods are members, or values of attributes that
are: and all of those are methods. -/
theorem ofFunction_form {source : SourceText} {t : SyntaxTree} {p : Place} {f : FunctionInfo}
    (hfit : ∀ n ∈ t.nodes, tokensFit source n = true) (hp : p ∈ t.visits)
    (hf : FunctionInfo.at? source p = some f)
    (hexported : f.isExported = false) (hasync : f.isAsync = false) :
    (ofFunction f = .handler ↔ ∃ attr, attribute? p = some attr ∧ isTagged source attr = false) ∧
    (ofFunction f = .method → isMember p = true ∨
      ∃ attr, attribute? p = some attr ∧ isTagged source attr = true) ∧
    (∀ attr, attribute? p = some attr → isTagged source attr = true → ofFunction f = .method) := by
  rw [SyntaxTree.mem_visits_iff] at hp
  obtain ⟨name, hname, rfl⟩ := Option.map_eq_some_iff.mp hf
  rw [ofFunction_eq_handler_iff hexported hasync, ofFunction_eq_method_iff hexported hasync]
  show (FunctionInfo.isMemberName name = false ∧ isHandlerName name = true ↔ _) ∧
    (FunctionInfo.isMemberName name = true ∧ isComposed name = false → _) ∧
    ∀ attr, attribute? p = some attr → isTagged source attr = true →
      FunctionInfo.isMemberName name = true ∧ isComposed name = false
  cases hattr : attribute? p with
  | none =>
    obtain ⟨hhandler, hmember⟩ := form_elsewhere hfit hp (form_of_name? hname) hattr
    rw [hhandler]
    exact ⟨⟨fun h => absurd h.2 Bool.false_ne_true, fun ⟨_, h, _⟩ => nomatch h⟩,
      fun h => .inl (hmember h.1 h.2), fun _ h => nomatch h⟩
  | some attr =>
    obtain rfl : handlerName source attr = name :=
      Option.some.inj ((name?_of_attribute hattr).symm.trans hname)
    have hwithin := within_of_attribute? hp hattr
    cases htagged : isTagged source attr with
    | true =>
      obtain ⟨hmember, hplain⟩ := method_of_tagged hfit hwithin htagged
      refine ⟨⟨fun h => ?_, ?_⟩, fun _ => .inr ⟨attr, rfl, htagged⟩, ?_⟩
      · exact absurd (hmember.symm.trans h.1) (by decide)
      · rintro ⟨other, hother, huntagged⟩
        obtain rfl := Option.some.inj hother
        cases htagged.symm.trans huntagged
      · rintro other hother -
        exact ⟨hmember, hplain⟩
    | false =>
      obtain ⟨hmember, hhandler⟩ := handler_of_untagged hfit hwithin htagged
      refine ⟨⟨fun _ => ⟨attr, rfl, htagged⟩, fun _ => ⟨hmember, hhandler⟩⟩, fun h => ?_, ?_⟩
      · exact absurd (hmember.symm.trans h.1) (by decide)
      · intro other hother hother'
        obtain rfl := Option.some.inj hother
        cases htagged.symm.trans hother'

/-- The tree of `<B c={()=>{}}/>`. -/
def namedAttribute : SyntaxTree :=
  .onLine "program" none 0 15 [
    .onLine "expression_statement" none 0 15 [
      .onLine "jsx_self_closing_element" none 0 15 [
        .fixed "<" 0 1,
        .onLine "identifier" (some "name") 1 2 [],
        .onLine "jsx_attribute" (some "attribute") 3 13 [
          .onLine "property_identifier" none 3 4 [],
          .fixed "=" 4 5,
          .onLine "jsx_expression" none 5 13 [
            .fixed "\x7b" 5 6,
            .onLine "arrow_function" none 6 12 [
              .onLine "formal_parameters" (some "parameters") 6 8 [
                .fixed "(" 6 7,
                .fixed ")" 7 8],
              .fixed "=>" 8 10,
              .onLine "statement_block" (some "body") 10 12 [
                .fixed "\x7b" 10 11,
                .fixed "\x7d" 11 12]],
            .fixed "\x7d" 12 13]],
        .fixed "/>" 13 15]]]

/-- The place of the function in it. -/
def namedHandler : Place := (namedAttribute.visits[10]?).getD (.root namedAttribute)

theorem namedHandler_mem : namedHandler ∈ namedAttribute.visits := namedAttribute.placeAt_mem 10

theorem namedAttribute_fit :
    ∀ n ∈ namedAttribute.nodes, tokensFit (.ofString "<B c={()=>{}}/>") n = true := by
  decide +kernel

/-- The function there. -/
def handlerFunction : FunctionInfo :=
  .ofPlace (.ofString "<B c={()=>{}}/>") "B.c" namedHandler

theorem at?_namedHandler :
    FunctionInfo.at? (.ofString "<B c={()=>{}}/>") namedHandler = some handlerFunction := by
  have hname : name? (.ofString "<B c={()=>{}}/>") namedHandler = some "B.c" := by decide +kernel
  rw [FunctionInfo.at?, hname]
  rfl

theorem handlerFunction_marks :
    handlerFunction.isExported = false ∧ handlerFunction.isAsync = false := by
  decide +kernel

/-- The function is the value of a named attribute of a named element, and so it is shown
among the methods. -/
theorem ofFunction_form_namedHandler : ∃ attr,
    ((∀ n ∈ namedAttribute.nodes, tokensFit (.ofString "<B c={()=>{}}/>") n = true) ∧
      namedHandler ∈ namedAttribute.visits ∧
      FunctionInfo.at? (.ofString "<B c={()=>{}}/>") namedHandler = some handlerFunction ∧
      handlerFunction.isExported = false ∧ handlerFunction.isAsync = false) ∧
    attribute? namedHandler = some attr ∧ ofFunction handlerFunction = .method := by
  obtain ⟨hexported, hasync⟩ := handlerFunction_marks
  obtain ⟨attr, hattr⟩ := Option.isSome_iff_exists.mp
    (show (attribute? namedHandler).isSome = true by decide +kernel)
  have htagged : (attribute? namedHandler).all (isTagged (.ofString "<B c={()=>{}}/>")) = true := by
    decide +kernel
  rw [hattr] at htagged
  have hform :=
    ofFunction_form namedAttribute_fit namedHandler_mem at?_namedHandler hexported hasync
  exact ⟨attr, ⟨namedAttribute_fit, namedHandler_mem, at?_namedHandler, hexported, hasync⟩, hattr,
    hform.2.2 attr hattr htagged⟩

/-- So the values of attributes are not all shown among the handlers, and not only members
among the methods. -/
theorem handler_among_methods : ¬ ∀ (source : SourceText) (t : SyntaxTree) (p : Place)
    (f : FunctionInfo), (∀ n ∈ t.nodes, tokensFit source n = true) → p ∈ t.visits →
    FunctionInfo.at? source p = some f → f.isExported = false → f.isAsync = false →
    (ofFunction f = .handler ↔ ∃ attr, attribute? p = some attr) ∧
      (ofFunction f = .method → isMember p = true) := by
  intro h
  obtain ⟨hexported, hasync⟩ := handlerFunction_marks
  have hmethod : ofFunction handlerFunction = .method :=
    (ofFunction_eq_method_iff hexported hasync).mpr
      ⟨(isMemberName_iff "B.c").mpr (by decide), rfl⟩
  have hmember := (h _ _ _ _ namedAttribute_fit namedHandler_mem at?_namedHandler hexported
    hasync).2 hmethod
  revert hmember
  decide +kernel

end NodeGroup

end CallAtlas
