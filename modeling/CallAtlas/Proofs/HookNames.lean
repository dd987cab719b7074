import CallAtlas.Proofs.GroupForms

/-!
# Hooks are read from names

The name of an argument of a call is put together from the variable of the call and the path of
what is called, and `Naming.hook?` takes it apart again. What stands behind the last mark of a
text does not change but for what is appended, if that has nothing of the mark in it
(`Naming.afterLast?_append`). So of the whole path only its last part matters: it is a word, and
words have none of the marks (`Naming.hook?_callbackName`).

A name of any other form does not end with a parenthesis. This depends on what keys look like:
strings end with a quote and computed keys with a bracket (`Naming.Spelled`).
-/

namespace CallAtlas

namespace Naming

/-! ## Behind the last mark -/

section Marks

variable {mark front word : List Char}

/-- A text that has nothing of a mark in it takes no part in the mark. -/
theorem isPrefixOf_append_of_disjoint (hword : ∀ c ∈ mark, c ∉ word) :
    mark.isPrefixOf (front ++ word) = mark.isPrefixOf front := by
  rw [Bool.eq_iff_iff, List.isPrefixOf_iff_prefix, List.isPrefixOf_iff_prefix]
  refine ⟨fun h => ?_, fun h => h.trans (List.prefix_append _ _)⟩
  rcases List.prefix_or_prefix_of_prefix h (List.prefix_append front word) with hfront | hover
  · exact hfront
  · -- the mark would reach into the word, which has nothing of it
    obtain ⟨rest, rfl⟩ := hover
    have hrest : rest <+: word := (List.prefix_append_right_inj front).mp h
    have hnil : rest = [] := by
      rw [List.eq_nil_iff_forall_not_mem]
      intro c hc
      exact hword c (List.mem_append_right _ hc) (hrest.subset hc)
    simp [hnil]

/-- Where the mark does not stand, nothing is found. -/
theorem afterLast?_go_of_not_infix (h : ¬ mark <:+: word) (last : Option (List Char)) :
    afterLast?.go mark last word = last := by
  induction word generalizing last with
  | nil => rfl
  | cons c cs ih =>
    have hprefix : ¬ mark.isPrefixOf (c :: cs) = true := fun hp =>
      h (List.isPrefixOf_iff_prefix.mp hp).isInfix
    rw [afterLast?.go, if_neg hprefix]
    exact ih (fun hinfix => h (List.infix_cons hinfix)) last

/-- A word that has none of the characters of a mark does not have the mark in it. -/
theorem not_infix_of_disjoint (hmark : mark ≠ []) (hword : ∀ c ∈ mark, c ∉ word) :
    ¬ mark <:+: word := by
  intro h
  obtain ⟨c, hc⟩ := List.exists_mem_of_ne_nil mark hmark
  exact hword c hc (h.subset hc)

/-- A word at the end of a text is passed over by the search for the last mark. -/
theorem afterLast?_go_append (hmark : mark ≠ []) (hword : ∀ c ∈ mark, c ∉ word)
    (last : Option (List Char)) :
    afterLast?.go mark (last.map (· ++ word)) (front ++ word) =
      (afterLast?.go mark last front).map (· ++ word) := by
  induction front generalizing last with
  | nil => exact afterLast?_go_of_not_infix (not_infix_of_disjoint hmark hword) _
  | cons c front ih =>
    rw [List.cons_append, afterLast?.go, afterLast?.go, ← ih, ← List.cons_append,
      isPrefixOf_append_of_disjoint hword]
    split
    · next hprefix =>
      have hlength := (List.isPrefixOf_iff_prefix.mp hprefix).length_le
      rw [List.drop_append_of_le_length hlength, Option.map_some]
    · rfl

/-- A text that has nothing of the mark in it only lengthens what stands behind the last mark. -/
theorem afterLast?_append (hmark : mark ≠ []) (hword : ∀ c ∈ mark, c ∉ word) :
    afterLast? mark (front ++ word) = (afterLast? mark front).map (· ++ word) :=
  afterLast?_go_append hmark hword none

/-- Nothing stands behind a mark at the end. -/
theorem afterLast?_mark (hmark : mark ≠ []) : afterLast? mark (front ++ mark) = some [] := by
  suffices h : ∀ last, afterLast?.go mark last (front ++ mark) = some [] from h none
  induction front with
  | nil =>
    intro last
    obtain ⟨c, cs, rfl⟩ := List.exists_cons_of_ne_nil hmark
    have hself : (c :: cs).isPrefixOf (c :: cs) = true :=
      List.isPrefixOf_iff_prefix.mpr List.prefix_rfl
    rw [List.nil_append, afterLast?.go, if_pos hself, List.drop_length]
    -- what follows is too short to hold the mark again
    refine afterLast?_go_of_not_infix (fun hinfix => ?_) _
    exact absurd hinfix.length_le (Nat.not_succ_le_self _)
  | cons c front ih =>
    intro last
    rw [List.cons_append, afterLast?.go]
    exact ih _

/-- What has nothing of the mark in it stands behind it as it is. -/
theorem afterLast?_mark_append (hmark : mark ≠ []) (hword : ∀ c ∈ mark, c ∉ word) :
    afterLast? mark (front ++ mark ++ word) = some word := by
  rw [afterLast?_append hmark hword, afterLast?_mark hmark]
  rfl

end Marks

/-! ## Names of arguments -/

/-- The marks by which the name of an argument is taken apart. -/
def marks : List Char := [' ', '.', '(', ')']

/-- The name of an argument up to its target. -/
def beforeTarget (binding : Option String) : List Char :=
  (binding.getD callbackLabel).toList ++ [' ', '(']

theorem targetOf?_callbackName (binding : Option String) (target : String) :
    targetOf? (callbackName binding target) =
      afterLast? [' ', '('] (beforeTarget binding ++ target.toList) := by
  have htext : (callbackName binding target).toList.reverse =
      ')' :: (beforeTarget binding ++ target.toList).reverse := by
    simp [callbackName, beforeTarget]
  rw [targetOf?, htext]
  exact congrArg _ (List.reverse_reverse _)

/-- A text behind which a part of a path begins: none, or one that ends with a point. -/
inductive BeforePart : List Char → Prop
  | nil : BeforePart []
  | point (front : List Char) : BeforePart (front ++ ['.'])

/-- A path is its last part behind a text that is empty or ends with a point. -/
theorem exists_beforePart (front : List String) (word : String) :
    ∃ text, BeforePart text ∧
      (".".intercalate (front ++ [word])).toList = text ++ word.toList := by
  by_cases hfront : front = []
  · subst hfront
    exact ⟨[], .nil, rfl⟩
  · refine ⟨(".".intercalate front).toList ++ ['.'], .point _, ?_⟩
    rw [String.intercalate_append_of_ne_nil hfront (List.cons_ne_nil word []),
      String.intercalate_singleton, String.toList_append, String.toList_append]
    rfl

/-- If parentheses stand in the path, it is cut there, but not in its last part. -/
theorem afterLast?_beforeTarget (binding : Option String) {text : List Char}
    (h : BeforePart text) :
    ∃ rest, BeforePart rest ∧
      afterLast? [' ', '('] (beforeTarget binding ++ text) = some rest := by
  cases h with
  | nil => exact ⟨[], .nil, by rw [List.append_nil]; exact afterLast?_mark (List.cons_ne_nil _ _)⟩
  | point front =>
    have hpoint : ∀ c ∈ [' ', '('], c ∉ ['.'] := by simp
    have hopen : [' ', '('] <:+: beforeTarget binding ++ front :=
      ⟨(binding.getD callbackLabel).toList, front, rfl⟩
    obtain ⟨rest, hrest⟩ :=
      Option.isSome_iff_exists.mp ((afterLast?_isSome_iff (List.cons_ne_nil _ _) _).mpr hopen)
    refine ⟨rest ++ ['.'], .point rest, ?_⟩
    rw [← List.append_assoc, afterLast?_append (List.cons_ne_nil _ _) hpoint, hrest, Option.map_some]

/-- The last part of a path stands behind the last point, or there is no point. -/
theorem lastPart_append {text word : List Char} (h : BeforePart text) (hword : '.' ∉ word) :
    (afterLast? ['.'] (text ++ word)).getD (text ++ word) = word := by
  have hpoint : ∀ c ∈ ['.'], c ∉ word := fun c hc => List.mem_singleton.mp hc ▸ hword
  cases h with
  | nil =>
    rw [List.nil_append]
    cases hlast : afterLast? ['.'] word with
    | none => rfl
    | some rest =>
      have hinfix := (afterLast?_isSome_iff (List.cons_ne_nil _ _) word).mp (by rw [hlast]; rfl)
      exact absurd hinfix (not_infix_of_disjoint (List.cons_ne_nil _ _) hpoint)
  | point front =>
    rw [afterLast?_mark_append (List.cons_ne_nil _ _) hpoint]
    rfl

/-- The hook in the name of an argument is the last part of the path of what is called. -/
theorem hook?_callbackName (binding : Option String) (front : List String) {word : String}
    (hword : lacks marks word = true) :
    hook? (callbackName binding (".".intercalate (front ++ [word]))) =
      hooks.find? (· == word) := by
  -- neither search reaches into the last part: both end before it and leave it as it is
  obtain ⟨text, htext, hpath⟩ := exists_beforePart front word
  obtain ⟨rest, hrest, hbehind⟩ := afterLast?_beforeTarget binding htext
  have hopen : ∀ c ∈ [' ', '('], c ∉ word.toList := by
    intro c hc
    have hmarks : ∀ c ∈ [' ', '('], c ∈ marks := by simp [marks]
    exact not_mem_of_lacks hword (hmarks c hc)
  have htarget : targetOf? (callbackName binding (".".intercalate (front ++ [word]))) =
      some (rest ++ word.toList) := by
    rw [targetOf?_callbackName, hpath, ← List.append_assoc,
      afterLast?_append (List.cons_ne_nil _ _) hopen, hbehind, Option.map_some]
  have hlast := lastPart_append hrest (not_mem_of_lacks hword (by decide : '.' ∈ marks))
  rw [hook?, htarget]
  show hooks.find? (· == String.ofList _) = _
  rw [hlast, String.ofList_toList]

/-! ## Paths of calls -/

open SyntaxTree.Resemblance (pathParts_of_head pathParts_of_member pathParts_of_other)

section Paths

variable {source : SourceText} {t : SyntaxTree} {tail parts : List String}

/-- The parts of an object come before those that follow it. -/
theorem suffix_of_object
    (hobjects : ∀ c ∈ t.children, pathParts source tail c = some parts → tail <:+ parts)
    (h : ((t.child? "object").map (pathParts source tail)).getD (some tail) = some parts) :
    tail <:+ parts := by
  cases hobject : t.child? "object" with
  | none =>
    rw [hobject] at h
    obtain rfl := Option.some.inj h
    exact List.suffix_rfl
  | some object =>
    rw [hobject] at h
    exact hobjects object (SyntaxTree.child?_mem hobject) h

/-- A path ends with what it was begun with. -/
theorem suffix_of_pathParts (t : SyntaxTree) :
    ∀ {tail : List String}, pathParts source tail t = some parts → tail <:+ parts := by
  induction t using SyntaxTree.childInduction with
  | step t ih =>
    intro tail h
    cases hhead : pathHeads.contains t.kind with
    | true =>
      rw [pathParts_of_head hhead] at h
      obtain rfl := Option.some.inj h
      exact List.suffix_cons _ _
    | false =>
      by_cases hmember : t.kind = "member_expression"
      · rw [pathParts_of_member hmember] at h
        obtain ⟨property, -, hobject⟩ := Option.bind_eq_some_iff.mp h
        have hparts := suffix_of_object (fun c hc => ih c hc) hobject
        exact (List.suffix_cons property tail).trans hparts
      · rw [pathParts_of_other hhead hmember] at h
        split at h
        · cases h
        · obtain rfl := Option.some.inj h
          exact List.suffix_rfl

/-- The path of a member has its property before what it was begun with. -/
theorem property_of_pathParts (hkind : t.kind = "member_expression")
    (h : pathParts source tail t = some parts) :
    ∃ property, t.child? "property" = some property ∧
      property.text source :: tail <:+ parts := by
  rw [pathParts_of_member hkind] at h
  obtain ⟨text, htext, hobject⟩ := Option.bind_eq_some_iff.mp h
  obtain ⟨property, hproperty, rfl⟩ := Option.map_eq_some_iff.mp htext
  exact ⟨property, hproperty, suffix_of_object (fun c _ => suffix_of_pathParts c) hobject⟩

end Paths

/-- The path of what a call calls, part by part. -/
def targetParts? (source : SourceText) (call : SyntaxTree) : Option (List String) := do
  let called ← call.child? "function"
  if called.kind = "identifier" then some [called.text source]
  else if called.kind = "member_expression" then pathParts source [] called
  else none

theorem target?_eq_map (source : SourceText) (call : SyntaxTree) :
    target? source call = (targetParts? source call).map (".".intercalate ·) := by
  unfold target? targetParts?
  cases call.child? "function" with
  | none => rfl
  | some called =>
    simp only [Option.bind_eq_bind, Option.bind_some]
    split
    · rw [Option.map_some, String.intercalate_singleton]
    · split <;> rfl

/-- The last part of the path is the identifier that is called, or the property of the member
that is. -/
theorem last_of_targetParts? {source : SourceText} {call : SyntaxTree} {parts : List String}
    (h : targetParts? source call = some parts) :
    ∃ called word front, call.child? "function" = some called ∧
      (word = called ∧ called.kind = "identifier" ∨
        called.child? "property" = some word ∧ called.kind = "member_expression") ∧
      parts = front ++ [word.text source] := by
  obtain ⟨called, hcalled, h⟩ := Option.bind_eq_some_iff.mp h
  split at h
  · next hkind =>
    obtain rfl := Option.some.inj h
    exact ⟨called, called, [], hcalled, .inl ⟨rfl, hkind⟩, rfl⟩
  · split at h
    · next hkind =>
      obtain ⟨property, hproperty, front, hfront⟩ := property_of_pathParts hkind h
      exact ⟨called, property, front, hcalled, .inr ⟨hproperty, hkind⟩, hfront.symm⟩
    · cases h

/-- The call that the function at a place is the first argument of. -/
def call? (p : Place) : Option Place := do
  let parent ← p.parent?
  let call ← parent.parent?
  if isExpression p.kind && parent.kind == "arguments" && p.isFirstNamed &&
      call.kind == "call_expression" then some call
  else none

/-- What is above the first argument of a call. -/
theorem call?_eq_some_iff {p call : Place} :
    call? p = some call ↔ ∃ parent, p.parent? = some parent ∧ parent.parent? = some call ∧
      isExpression p.kind = true ∧ parent.kind = "arguments" ∧ p.isFirstNamed = true ∧
      call.kind = "call_expression" := by
  simp only [call?, Option.bind_eq_bind, Option.bind_eq_some_iff]
  refine exists_congr fun parent => and_congr_right fun _ => ?_
  constructor
  · rintro ⟨above, habove, h⟩
    split at h
    · next hkinds =>
      obtain rfl := Option.some.inj h
      simp only [Bool.and_eq_true, beq_iff_eq] at hkinds
      exact ⟨habove, hkinds.1.1.1, hkinds.1.1.2, hkinds.1.2, hkinds.2⟩
    · cases h
  · rintro ⟨hcall, hexpr, hkind, hfirst, hcallKind⟩
    refine ⟨call, hcall, ?_⟩
    rw [hexpr, hkind, hfirst, hcallKind]
    rfl

/-- The first argument of a call is named for the call, or not at all. -/
theorem name?_of_argument {source : SourceText} {p call : Place} (h : call? p = some call) :
    name? source p =
      (target? source call.tree).map (callbackName (callBinding? source call)) := by
  obtain ⟨parent, hparent, hcall, hexpr, hkind, hfirst, hcallKind⟩ := call?_eq_some_iff.mp h
  rw [name?_of_expression source hexpr, hparent, Option.bind_some, valueName?, hkind,
    if_neg (by decide), if_neg (by decide), if_neg (by decide), if_pos rfl, argumentName?,
    hfirst, hcall]
  simp only [Bool.not_true, Bool.false_eq_true, if_false, Option.bind_eq_bind, Option.bind_some,
    hcallKind, ne_eq, not_true_eq_false]
  cases target? source call.tree <;> rfl

/-! ## Other names -/

/-- Whether a key of a kind that is no word can end with a character. -/
def canEnd (kind : String) (c : Char) : Bool :=
  if kind = "string" then c == '"' || c == '\''
  else if kind = "computed_property_name" then c == ']'
  else kind == "number" && (c.isAlphanum || c == '.')

/-- Whether the end of a text is that of a key: a word, a quote, a bracket or a number. -/
def endsAsKey (kind text : String) : Bool :=
  words.contains kind || text.toList.getLast?.all (canEnd kind)

/-- The tokens of a tree are such as grammars have them: words have no marks in them,
declarations are named by identifiers, properties are words, and keys and the names of
attributes with a namespace end as they have to. -/
structure Spelled (source : SourceText) (t : SyntaxTree) : Prop where
  word : ∀ n ∈ t.nodes, words.contains n.kind = true → lacks marks (n.text source) = true
  declared : ∀ n ∈ t.nodes, isDeclaration n.kind = true →
    (n.child? "name").all (·.kind == "identifier") = true
  property : ∀ n ∈ t.nodes, n.kind = "member_expression" →
    (n.child? "property").all (words.contains ·.kind) = true
  key : ∀ n ∈ t.nodes, (keyOf? n).all (fun k => endsAsKey k.kind (k.text source)) = true
  namespaced : ∀ n ∈ t.nodes, n.kind = "jsx_namespace_name" →
    (n.text source).toList.getLast?.all (!marks.contains ·) = true

/-- A name without a parenthesis at its end tells of no hook. -/
theorem hook?_of_last {name : String} (h : name.toList.getLast? ≠ some ')') :
    hook? name = none := by
  cases hhook : hook? name with
  | none => rfl
  | some hook =>
    have hcomposed := NodeGroup.isComposed_of_hook? hhook
    exact absurd ((NodeGroup.isComposed_iff name).mp hcomposed).1 h

/-- Behind a point a text ends as it does by itself, and an empty one with the point. -/
theorem last_behind_point (front : String) {back : String}
    (h : back.toList.getLast? ≠ some ')') :
    (front ++ "." ++ back).toList.getLast? ≠ some ')' := by
  rw [String.toList_append, List.getLast?_append]
  cases hback : back.toList.getLast? with
  | none =>
    rw [Option.none_or, last_append front (by decide : ".".toList.getLast? = some '.')]
    decide
  | some c => rwa [hback] at h

/-- Behind an owner a key does not end with a parenthesis either. -/
theorem last_qualify (owner : Option String) {key : String}
    (h : key.toList.getLast? ≠ some ')') : (qualify owner key).toList.getLast? ≠ some ')' := by
  cases owner with
  | none => exact h
  | some owner => exact last_behind_point owner h

theorem canEnd_close (kind : String) : canEnd kind ')' = false := by
  unfold canEnd
  split
  · rfl
  · split
    · rfl
    · exact Bool.and_false _

section Spelled

variable {source : SourceText} {t : SyntaxTree} {p q : Place} {name : String}
variable (hspelled : Spelled source t)

include hspelled

theorem Spelled.last_word {n : SyntaxTree} (hn : n ∈ t.nodes)
    (hkind : words.contains n.kind = true) : (n.text source).toList.getLast? ≠ some ')' :=
  fun hlast => not_mem_of_lacks (hspelled.word n hn hkind) (by decide : ')' ∈ marks)
    (List.mem_of_getLast? hlast)

/-- No key of a spelled tree ends with a parenthesis. -/
theorem Spelled.last_key {key : SyntaxTree} (hq : Place.Within t q)
    (hkey : keyOf? q.tree = some key) : (key.text source).toList.getLast? ≠ some ')' := by
  have hchild : key ∈ q.tree.children := by
    unfold keyOf? at hkey
    split at hkey
    · exact SyntaxTree.child?_mem hkey
    · split at hkey
      · exact SyntaxTree.child?_mem hkey
      · cases hkey
  have hends := hspelled.key q.tree (SyntaxTree.mem_nodes_iff.mpr ⟨q, hq, rfl⟩)
  rw [hkey, Option.all_some, endsAsKey, Bool.or_eq_true] at hends
  rcases hends with hword | hend
  · exact hspelled.last_word (SyntaxTree.mem_nodes_of_child hq hchild) hword
  · intro hlast
    rw [hlast, Option.all_some, canEnd_close] at hend
    cases hend

/-- No parenthesis is at the end of what stands for an attribute: its name, or one of the labels. -/
theorem Spelled.last_handlerName (hq : Place.Within t q) :
    (handlerName source q).toList.getLast? ≠ some ')' := by
  have hname : ∀ {name : String}, attributeName? source q = some name →
      name.toList.getLast? ≠ some ')' := by
    intro name h
    obtain ⟨first, hfirst, h⟩ := Option.bind_eq_some_iff.mp h
    split at h
    · next hkind =>
      obtain ⟨rfl, -⟩ := textOf?_eq_some h
      have hchild : first ∈ q.tree.children := List.mem_of_mem_filter (List.mem_of_head? hfirst)
      have hmem := SyntaxTree.mem_nodes_of_child hq hchild
      have hkinds : ∀ k ∈ attributeNames, words.contains k = true ∨ k = "jsx_namespace_name" := by
        decide
      rcases hkinds _ (List.contains_iff_mem.mp hkind) with hword | hnamespaced
      · exact hspelled.last_word hmem hword
      · intro hlast
        have hend := hspelled.namespaced first hmem hnamespaced
        rw [hlast, Option.all_some] at hend
        exact absurd hend (by decide)
    · cases h
  rw [handlerName_eq]
  split
  · next h => exact last_behind_point _ (hname h)
  · rw [last_append _ (by decide : handlerSuffix.toList.getLast? = some 'r')]
    decide
  · decide

/-- What is not named for a call has no parenthesis at the end of its name. -/
theorem Spelled.last_name (hp : Place.Within t p) (hname : name? source p = some name)
    (hcall : call? p = none) : name.toList.getLast? ≠ some ')' := by
  have hword : ∀ {q : Place} {node : SyntaxTree}, Place.Within t q →
      q.tree.child? "name" = some node → node.kind = "identifier" →
      (node.text source).toList.getLast? ≠ some ')' := by
    intro q node hq hnode hkind
    refine hspelled.last_word (SyntaxTree.mem_nodes_of_child hq (SyntaxTree.child?_mem hnode)) ?_
    rw [hkind]
    decide
  have hmember : ∀ {q : Place} {key : String}, Place.Within t q →
      (q.kind = method ∨ fields.contains q.kind = true) → writtenName? source q.tree = some key →
      key.toList.getLast? ≠ some ')' := by
    intro q key hq hkind hkey
    obtain ⟨node, hnode, rfl⟩ := writtenName?_eq_some hkey
    exact hspelled.last_key hq ((if_pos hkind).trans hnode)
  -- one case for each way to a name; that of an argument is excluded
  cases origin_of_name? hname with
  | declaration hdeclaration hwritten =>
    obtain ⟨node, hnode, rfl⟩ := writtenName?_eq_some hwritten
    have hkind := hspelled.declared p.tree (SyntaxTree.mem_nodes_iff.mpr ⟨p, hp, rfl⟩) hdeclaration
    rw [hnode, Option.all_some, beq_iff_eq] at hkind
    exact hword hp hnode hkind
  | method hmethod _ hkey => exact last_qualify _ (hmember hp (.inl hmethod) hkey)
  | bound _ hparent _ hbound =>
    obtain ⟨node, hnode, hkind, rfl⟩ := boundName?_eq_some hbound
    exact hword (hp.parent? hparent) hnode hkind
  | field _ hparent hfield _ hkey =>
    exact last_qualify _ (hmember (hp.parent? hparent) (.inr hfield) hkey)
  | @pair parent _ _ hparent hkind _ hkey =>
    obtain ⟨node, hnode, htext⟩ := Option.bind_eq_some_iff.mp hkey
    obtain ⟨rfl, -⟩ := textOf?_eq_some htext
    refine last_qualify _ (hspelled.last_key (hp.parent? hparent) ?_)
    have hpair : ¬ ("pair" = method ∨ fields.contains "pair" = true) := by decide
    rw [keyOf?, show parent.tree.kind = "pair" from hkind, if_neg hpair, if_pos rfl, hnode]
  | argument hexpr hparent hkind hfirst habove hcallKind =>
    have hsome := call?_eq_some_iff.mpr ⟨_, hparent, habove, hexpr, hkind, hfirst, hcallKind⟩
    cases hcall.symm.trans hsome
  | handler hattr =>
    obtain ⟨parent, hparent, habove, -⟩ := NodeGroup.attribute?_eq_some hattr
    exact hspelled.last_handlerName ((hp.parent? hparent).parent? habove)

/-- What a call calls ends with a word. -/
theorem Spelled.target_word {call : Place} {parts : List String} (hq : Place.Within t call)
    (h : targetParts? source call.tree = some parts) :
    ∃ front word, parts = front ++ [word] ∧ lacks marks word = true := by
  obtain ⟨called, node, front, hcalled, hnode, rfl⟩ := last_of_targetParts? h
  have hplace := SyntaxTree.mem_nodes_of_child hq (SyntaxTree.child?_mem hcalled)
  refine ⟨front, _, rfl, ?_⟩
  rcases hnode with ⟨rfl, hkind⟩ | ⟨hproperty, hkind⟩
  · refine hspelled.word _ hplace ?_
    rw [hkind]
    decide
  · have hword := hspelled.property called hplace hkind
    rw [hproperty, Option.all_some] at hword
    obtain ⟨q, hwithin, rfl⟩ := SyntaxTree.mem_nodes_iff.mp hplace
    exact hspelled.word _
      (SyntaxTree.mem_nodes_of_child hwithin (SyntaxTree.child?_mem hproperty)) hword

end Spelled

/-- Only a word that is a hook is found among the hooks. -/
theorem find?_hooks_eq_some_iff {word hook : String} :
    hooks.find? (· == word) = some hook ↔ hook ∈ hooks ∧ word = hook := by
  have hfound : ∀ {found : String}, hooks.find? (· == word) = some found → found = word := by
    intro found h
    have heq := List.find?_some h
    exact beq_iff_eq.mp heq
  constructor
  · intro h
    exact ⟨List.mem_of_find?_eq_some h, (hfound h).symm⟩
  · rintro ⟨hmem, rfl⟩
    have hsome : (hooks.find? fun hook => hook == word).isSome = true :=
      List.find?_isSome.mpr ⟨word, hmem, beq_self_eq_true word⟩
    obtain ⟨found, hfind⟩ := Option.isSome_iff_exists.mp hsome
    rw [hfind, hfound hfind]

/-- **Names tell of the hooks that were called.** If a function is the first argument of a call,
its name tells of a hook just if that is the last part of the path of what is called, whatever
the call is bound to and however long the path is. The names of all other functions tell of
none. -/
theorem names_tell_hooks {source : SourceText} {t : SyntaxTree} {p : Place} {f : FunctionInfo}
    (hspelled : Spelled source t) (hp : p ∈ t.visits) (hf : FunctionInfo.at? source p = some f) :
    (∀ call, call? p = some call → ∃ parts, targetParts? source call.tree = some parts ∧
      f.name = callbackName (callBinding? source call) (".".intercalate parts) ∧
      ∀ hook, hook? f.name = some hook ↔ hook ∈ hooks ∧ parts.getLast? = some hook) ∧
    (call? p = none → hook? f.name = none) := by
  rw [SyntaxTree.mem_visits_iff] at hp
  obtain ⟨name, hname, rfl⟩ := Option.map_eq_some_iff.mp hf
  refine ⟨fun call hcall => ?_, fun hcall => hook?_of_last (hspelled.last_name hp hname hcall)⟩
  have hwithin : Place.Within t call := by
    obtain ⟨parent, hparent, habove, -⟩ := call?_eq_some_iff.mp hcall
    exact (hp.parent? hparent).parent? habove
  -- the function has a name, so the call has a path
  rw [name?_of_argument hcall, target?_eq_map, Option.map_map] at hname
  obtain ⟨parts, hparts, rfl⟩ := Option.map_eq_some_iff.mp hname
  obtain ⟨front, word, rfl, hword⟩ := hspelled.target_word hwithin hparts
  refine ⟨_, hparts, rfl, fun hook => ?_⟩
  show hook? (callbackName _ _) = some hook ↔ _
  rw [hook?_callbackName _ front hword, find?_hooks_eq_some_iff, List.getLast?_concat,
    Option.some_inj]

/-- The tree of `var r=await React.useMemo(()=>{})`. -/
def memoCall : SyntaxTree :=
  .onLine "program" none 0 33 [
    .onLine "variable_declaration" none 0 33 [
      .fixed "var" 0 3,
      .onLine "variable_declarator" none 4 33 [
        .onLine "identifier" (some "name") 4 5 [],
        .fixed "=" 5 6,
        .onLine "await_expression" (some "value") 6 33 [
          .fixed "await" 6 11,
          .onLine "call_expression" none 12 33 [
            .onLine "member_expression" (some "function") 12 25 [
              .onLine "identifier" (some "object") 12 17 [],
              .fixed "." 17 18,
              .onLine "property_identifier" (some "property") 18 25 []],
            .onLine "arguments" (some "arguments") 25 33 [
              .fixed "(" 25 26,
              .onLine "arrow_function" none 26 32 [
                .onLine "formal_parameters" (some "parameters") 26 28 [
                  .fixed "(" 26 27,
                  .fixed ")" 27 28],
                .fixed "=>" 28 30,
                .onLine "statement_block" (some "body") 30 32 [
                  .fixed "\x7b" 30 31,
                  .fixed "\x7d" 31 32]],
              .fixed ")" 32 33]]]]]]

/-- The function is named for the call, and its name tells of the hook behind the point. -/
theorem names_tell_hooks_memo :
    let source := SourceText.ofString "var r=await React.useMemo(()=>{})"
    let p := memoCall.placeAt 15
    ∃ f call, (Spelled source memoCall ∧ p ∈ memoCall.visits ∧
        FunctionInfo.at? source p = some f ∧ call? p = some call) ∧
      f.name = "r (React.useMemo)" ∧ hook? f.name = some "useMemo" := by
  intro source p
  have hspelled : Spelled source memoCall :=
    ⟨by decide +kernel, by decide +kernel, by decide +kernel, by decide +kernel, by decide +kernel⟩
  have hmem : p ∈ memoCall.visits := memoCall.placeAt_mem 15
  have hname : name? source p = some "r (React.useMemo)" := by decide +kernel
  have hf : FunctionInfo.at? source p = some (.ofPlace source "r (React.useMemo)" p) := by
    rw [FunctionInfo.at?, hname, Option.map_some]
  obtain ⟨call, hcall⟩ := Option.isSome_iff_exists.mp
    (show (call? p).isSome = true by decide +kernel)
  have hlast : ((call? p).bind fun call => targetParts? source call.tree) =
      some ["React", "useMemo"] := by decide +kernel
  rw [hcall, Option.bind_some] at hlast
  obtain ⟨parts, hparts, -, hhook⟩ := (names_tell_hooks hspelled hmem hf).1 call hcall
  obtain rfl := Option.some.inj (hlast.symm.trans hparts)
  exact ⟨_, call, ⟨hspelled, hmem, hf, hcall⟩, rfl, (hhook "useMemo").mpr ⟨by decide, rfl⟩⟩

end Naming

end CallAtlas
