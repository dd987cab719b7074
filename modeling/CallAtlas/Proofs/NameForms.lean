import CallAtlas.Function.Naming

/-!
# Names and the forms they come from

The name of a function is put together in one of five ways (`Naming.Form`): it is written in
a declaration, it is that of a variable, a key behind the owner of a member, a target behind
a binding, or what an attribute and its element tell. `Naming.form_of_name?` says that there
are no others, and for each what stands around the function.

`Naming.Origin` tells more: one case for each place to stand at, with all that a name is made
of there.
-/

namespace CallAtlas

namespace Naming

/-! ## Where functions stand -/

/-- Whether the function at a place is a member of a class or of an object. -/
def isMember (p : Place) : Bool :=
  p.kind == method || isExpression p.kind && p.isField "value" && match p.parent? with
    | some parent => fields.contains parent.kind || parent.kind == "pair"
    | none => false

/-- The attribute that the function at a place is the value of. -/
def attribute? (p : Place) : Option Place := do
  let parent ← p.parent?
  let attr ← parent.parent?
  if isExpression p.kind && parent.kind == "jsx_expression" && attr.kind == "jsx_attribute" then
    some attr
  else none

/-- The name of an attribute. -/
def attributeName? (source : SourceText) (attr : Place) : Option String := do
  let first ← attr.tree.namedChildren.head?
  if attributeNames.contains first.kind then textOf? source first else none

/-- The name of the element of an attribute. -/
def elementName? (source : SourceText) (attr : Place) : Option String := do
  let element ← attr.parent?
  if elements.contains element.kind then writtenName? source element.tree else none

/-- A handler goes by its attribute, with the element in front if it has a name, and by a label of
its own if the attribute has none. -/
theorem handlerName_eq (source : SourceText) (attr : Place) :
    handlerName source attr = match elementName? source attr, attributeName? source attr with
      | some tag, some name => tag ++ "." ++ name
      | none, some name => name ++ handlerSuffix
      | _, none => handlerLabel := rfl

/-- The key of a member of a class or of an object. -/
def keyOf? (t : SyntaxTree) : Option SyntaxTree :=
  if t.kind = method ∨ fields.contains t.kind then t.child? "name"
  else if t.kind = "pair" then t.child? "key"
  else none

/-- How the name of the function at a place is put together. -/
inductive Form (source : SourceText) (p : Place) : String → Prop
  /-- It is written in a declaration. -/
  | declared {name : SyntaxTree} (hp : isDeclaration p.kind = true)
      (hname : p.tree.child? "name" = some name) : Form source p (name.text source)
  /-- It is that of a variable. -/
  | bound {parent : Place} {name : SyntaxTree} (hparent : p.parent? = some parent)
      (hkind : parent.kind = "variable_declarator") (hname : parent.tree.child? "name" = some name)
      (hidentifier : name.kind = "identifier") : Form source p (name.text source)
  /-- It is a key, behind the owner of the member as far as that is known. -/
  | member {node key : SyntaxTree} (owner : Option String) (hp : isMember p = true)
      (hnode : node = p.tree ∨ ∃ parent, p.parent? = some parent ∧ node = parent.tree)
      (hkey : keyOf? node = some key) : Form source p (qualify owner (key.text source))
  /-- It is a target behind a binding. -/
  | argument {parent : Place} (binding : Option String) (target : String)
      (hparent : p.parent? = some parent) (hkind : parent.kind = "arguments") :
      Form source p (callbackName binding target)
  /-- It is that of an attribute and its element. -/
  | handler {attr : Place} (hattr : attribute? p = some attr) :
      Form source p (handlerName source attr)

/-- A text that is taken for a name is that of the node, and not empty. -/
theorem textOf?_eq_some {source : SourceText} {t : SyntaxTree} {text : String}
    (h : textOf? source t = some text) : t.text source = text ∧ text.isEmpty = false := by
  unfold textOf? at h
  dsimp only at h
  split at h
  · cases h
  · next hempty =>
    obtain rfl := Option.some.inj h
    exact ⟨rfl, Bool.eq_false_iff.mpr hempty⟩

/-- A name that is written is the text under the field for it. -/
theorem writtenName?_eq_some {source : SourceText} {t : SyntaxTree} {text : String}
    (h : writtenName? source t = some text) :
    ∃ name, t.child? "name" = some name ∧ name.text source = text := by
  obtain ⟨name, hname, htext⟩ := Option.bind_eq_some_iff.mp h
  exact ⟨name, hname, (textOf?_eq_some htext).1⟩

/-- A name that is bound is the text of an identifier. -/
theorem boundName?_eq_some {source : SourceText} {t : SyntaxTree} {text : String}
    (h : boundName? source t = some text) :
    ∃ name, t.child? "name" = some name ∧ name.kind = "identifier" ∧ name.text source = text := by
  obtain ⟨name, hname, htext⟩ := Option.bind_eq_some_iff.mp h
  unfold identifier? at htext
  split at htext
  · next hkind => exact ⟨name, hname, hkind, Option.some.inj htext⟩
  · cases htext

/-- A function that is an expression is no declaration. -/
theorem not_declaration_of_expression {kind : String} (h : isExpression kind = true) :
    isDeclaration kind = false := by
  have hkinds : ∀ k ∈ expressions, isDeclaration k = false := by decide
  exact hkinds kind (List.contains_iff_mem.mp h)

theorem not_method_of_expression {kind : String} (h : isExpression kind = true) :
    (kind == method) = false := by
  have hkinds : ∀ k ∈ expressions, (k == method) = false := by decide
  exact hkinds kind (List.contains_iff_mem.mp h)

/-- A function that stands where a value stands is named by the node above it. -/
theorem name?_of_expression (source : SourceText) {p : Place} (h : isExpression p.kind = true) :
    name? source p = p.parent?.bind (valueName? source p) := by
  have hmethod : p.kind ≠ method := by
    intro heq
    exact Bool.false_ne_true ((not_method_of_expression h).symm.trans (beq_iff_eq.mpr heq))
  rw [name?, not_declaration_of_expression h, if_neg Bool.false_ne_true, if_neg hmethod, if_pos h]

/-- A method is named by its key. -/
theorem name?_of_method (source : SourceText) {p : Place} (h : p.kind = method) :
    name? source p = methodName? source p := by
  rw [name?, h, if_neg (by decide), if_pos rfl]

theorem isMember_of_value {p parent : Place} (hexpr : isExpression p.kind = true)
    (hparent : p.parent? = some parent) (hvalue : p.isField "value" = true)
    (hkind : (fields.contains parent.kind || parent.kind == "pair") = true) :
    isMember p = true := by
  rw [isMember, not_method_of_expression hexpr, hexpr, hvalue, hparent]
  exact hkind

/-! ## What a name is made of -/

/-- The owner of the members of an object. -/
def objectOwner? (source : SourceText) (object : Place) : Option String :=
  if object.kind = "object" then objectBinding? source object else none

/-- The owner of a method. -/
def methodOwner? (source : SourceText) (p parent : Place) : Option String :=
  if parent.kind = "class_body" then enclosingClassName? source p else objectOwner? source parent

/-- All that a name is made of, one case for each way to have one. -/
inductive Origin (source : SourceText) (p : Place) : String → Prop
  | declaration {name : String} (hp : isDeclaration p.kind = true)
      (hname : writtenName? source p.tree = some name) : Origin source p name
  | method {parent : Place} {key : String} (hp : p.kind = method)
      (hparent : p.parent? = some parent) (hkey : writtenName? source p.tree = some key) :
      Origin source p (qualify (methodOwner? source p parent) key)
  | bound {parent : Place} {name : String} (hp : isExpression p.kind = true)
      (hparent : p.parent? = some parent) (hkind : parent.kind = "variable_declarator")
      (hname : boundName? source parent.tree = some name) : Origin source p name
  | field {parent : Place} {key : String} (hp : isExpression p.kind = true)
      (hparent : p.parent? = some parent) (hkind : fields.contains parent.kind = true)
      (hvalue : p.isField "value" = true) (hkey : writtenName? source parent.tree = some key) :
      Origin source p (qualify (enclosingClassName? source parent) key)
  | pair {parent : Place} {key : String} (hp : isExpression p.kind = true)
      (hparent : p.parent? = some parent) (hkind : parent.kind = "pair")
      (hvalue : p.isField "value" = true)
      (hkey : (parent.tree.child? "key").bind (textOf? source) = some key) :
      Origin source p (qualify (parent.parent?.bind (objectOwner? source)) key)
  | argument {parent call : Place} {target : String} (hp : isExpression p.kind = true)
      (hparent : p.parent? = some parent) (hkind : parent.kind = "arguments")
      (hfirst : p.isFirstNamed = true) (hcall : parent.parent? = some call)
      (hcallKind : call.kind = "call_expression") (htarget : target? source call.tree = some target) :
      Origin source p (callbackName (callBinding? source call) target)
  | handler {attr : Place} (hattr : attribute? p = some attr) :
      Origin source p (handlerName source attr)

/-- An argument that has a name goes by its call. -/
theorem origin_of_argumentName? {source : SourceText} {p parent : Place} {name : String}
    (hp : isExpression p.kind = true) (hparent : p.parent? = some parent)
    (hkind : parent.kind = "arguments") (h : argumentName? source p parent = some name) :
    Origin source p name := by
  unfold argumentName? at h
  split at h
  · cases h
  · next hfirst =>
    obtain ⟨call, hcall, h⟩ := Option.bind_eq_some_iff.mp h
    split at h
    · cases h
    · next hcallKind =>
      obtain ⟨target, htarget, h⟩ := Option.bind_eq_some_iff.mp h
      obtain rfl := Option.some.inj h
      exact .argument hp hparent hkind (by simpa using hfirst) hcall (by simpa using hcallKind)
        htarget

/-- A function that stands where a value stands has its name from the node above it. -/
theorem origin_of_valueName? {source : SourceText} {p parent : Place} {name : String}
    (hp : isExpression p.kind = true) (hparent : p.parent? = some parent)
    (h : valueName? source p parent = some name) : Origin source p name := by
  -- the cases are the kinds of the node above, in the order in which they are tried
  unfold valueName? at h
  split at h
  case isTrue hkind =>
    split at h
    · exact .bound hp hparent hkind h
    · cases h
  case isFalse =>
  split at h
  case isTrue hkind =>
    split at h
    · next hvalue =>
      obtain ⟨key, hkey, rfl⟩ := Option.map_eq_some_iff.mp h
      exact .field hp hparent hkind hvalue hkey
    · cases h
  case isFalse =>
  split at h
  case isTrue hkind =>
    split at h
    · next hvalue =>
      obtain ⟨key, hkey, hname⟩ := Option.bind_eq_some_iff.mp h
      obtain rfl := Option.some.inj hname
      exact .pair hp hparent hkind hvalue hkey
    · cases h
  case isFalse =>
  split at h
  case isTrue hkind => exact origin_of_argumentName? hp hparent hkind h
  case isFalse =>
  split at h
  case isTrue hkind =>
    obtain ⟨attr, hattr, hname⟩ := Option.bind_eq_some_iff.mp h
    split at hname
    · next hattribute =>
      obtain rfl := Option.some.inj hname
      refine .handler ?_
      rw [attribute?, hparent]
      show (parent.parent?).bind _ = _
      rw [hattr]
      show (if (isExpression p.kind && parent.kind == "jsx_expression" &&
        attr.kind == "jsx_attribute") = true then some attr else none) = _
      rw [hp, hkind, hattribute]
      rfl
    · cases hname
  case isFalse => cases h

/-- A name is made in one of these ways. -/
theorem origin_of_name? {source : SourceText} {p : Place} {name : String}
    (h : name? source p = some name) : Origin source p name := by
  unfold name? at h
  split at h
  · next hdeclaration => exact .declaration hdeclaration h
  · split at h
    · next hmethod =>
      obtain ⟨key, hkey, hrest⟩ := Option.bind_eq_some_iff.mp h
      obtain ⟨parent, hparent, hname⟩ := Option.bind_eq_some_iff.mp hrest
      obtain rfl := Option.some.inj hname
      exact .method hmethod hparent hkey
    · split at h
      · next hexpr =>
        obtain ⟨parent, hparent, hname⟩ := Option.bind_eq_some_iff.mp h
        exact origin_of_valueName? hexpr hparent hname
      · cases h

/-- **The ways in which a function has a name.** -/
theorem form_of_name? {source : SourceText} {p : Place} {name : String}
    (h : name? source p = some name) : Form source p name := by
  cases origin_of_name? h with
  | declaration hp hname =>
    obtain ⟨node, hnode, rfl⟩ := writtenName?_eq_some hname
    exact .declared hp hnode
  | method hp hparent hwritten =>
    obtain ⟨key, hkey, rfl⟩ := writtenName?_eq_some hwritten
    refine .member _ (by rw [isMember, beq_iff_eq.mpr hp]; rfl) (.inl rfl) ?_
    rw [keyOf?, if_pos (.inl hp), hkey]
  | bound hp hparent hkind hname =>
    obtain ⟨node, hnode, hidentifier, rfl⟩ := boundName?_eq_some hname
    exact .bound hparent hkind hnode hidentifier
  | @field parent _ hp hparent hkind hvalue hwritten =>
    obtain ⟨key, hkey, rfl⟩ := writtenName?_eq_some hwritten
    refine .member _ (isMember_of_value hp hparent hvalue (by rw [hkind]; rfl))
      (.inr ⟨parent, hparent, rfl⟩) ?_
    rw [keyOf?, if_pos (.inr hkind), hkey]
  | @pair parent _ hp hparent hkind hvalue hwritten =>
    obtain ⟨key, hkey, htext⟩ := Option.bind_eq_some_iff.mp hwritten
    obtain ⟨rfl, -⟩ := textOf?_eq_some htext
    refine .member _ (isMember_of_value hp hparent hvalue (by rw [hkind, Bool.or_comm]; rfl))
      (.inr ⟨parent, hparent, rfl⟩) ?_
    have hpair : ¬ (parent.tree.kind = method ∨ fields.contains parent.tree.kind = true) := by
      rw [show parent.tree.kind = "pair" from hkind]
      decide
    rw [keyOf?, if_neg hpair, if_pos (show parent.tree.kind = "pair" from hkind), hkey]
  | argument hp hparent hkind => exact .argument _ _ hparent hkind
  | handler hattr => exact .handler hattr

end Naming

end CallAtlas
