import CallAtlas.Proofs.NameForms
import CallAtlas.Proofs.Resemblance

/-!
# Members are called by their names

A member is named from its own place: by its key, behind the class or the variable above it.
A call of the member is named from the place of the call: by what stands behind the point, and
by the class around the call or the variable before the point. Both come to one name
(`CallSite.callee?_of_targets`), as the class around the member is the nearest one around the
call too (`Place.Nearest`) and the texts of key and property are equal. So the call is recorded
among the calls of the tree.
-/

namespace CallAtlas

namespace Place

/-! ## The nearest place above -/

/-- The place `q` satisfies a condition and is above a place, and none between them does. -/
inductive Nearest (cond : Place → Bool) (q : Place) : Place → Prop
  | parent {p : Place} (hparent : p.parent? = some q) (hcond : cond q = true) : Nearest cond q p
  | above {p parent : Place} (hparent : p.parent? = some parent) (hcond : cond parent = false)
      (h : Nearest cond q parent) : Nearest cond q p

theorem ancestor?_of_parent {p parent : Place} (h : p.parent? = some parent)
    (cond : Place → Bool) :
    p.ancestor? cond = if cond parent then some parent else parent.ancestor? cond := by
  obtain ⟨tree, above⟩ := p
  cases above with
  | nil => cases h
  | cons c rest =>
    obtain rfl := Option.some.inj h
    rfl

/-- The search upwards finds the nearest place that satisfies a condition. -/
theorem ancestor?_eq_some_iff {cond : Place → Bool} {p q : Place} :
    p.ancestor? cond = some q ↔ Nearest cond q p := by
  constructor
  · intro h
    obtain ⟨tree, above⟩ := p
    induction above generalizing tree with
    | nil => cases h
    | cons c rest ih =>
      have hparent : (⟨tree, c :: rest⟩ : Place).parent? = some ⟨c.parent, rest⟩ := rfl
      rw [ancestor?_of_parent hparent] at h
      split at h
      · next hcond =>
        obtain rfl := Option.some.inj h
        exact .parent hparent hcond
      · next hcond => exact .above hparent (Bool.not_eq_true _ ▸ hcond) (ih c.parent h)
  · intro h
    induction h with
    | parent hparent hcond => rw [ancestor?_of_parent hparent, if_pos hcond]
    | above hparent hcond _ ih =>
      rw [ancestor?_of_parent hparent, if_neg (Bool.not_eq_true _ ▸ hcond), ih]

end Place

namespace Naming

/-! ## Members -/

/-- The nearest class around a place. -/
abbrev InClass (c p : Place) : Prop := Place.Nearest (fun q => classes.contains q.kind) c p

/-- A call by `this` looks for the class that `InClass` is about. -/
theorem enclosingClassName?_of_inClass {source : SourceText} {c p : Place} (h : InClass c p) :
    enclosingClassName? source p = writtenName? source c.tree := by
  rw [enclosingClassName?, enclosingClass?, Place.ancestor?_eq_some_iff.mpr h]
  rfl

/-- The function at a place is a method of a class or initializes a field of it. The last node
is the one that has the key. -/
inductive ClassMember (c : Place) : Place → SyntaxTree → Prop
  | method {p body : Place} (hp : p.kind = method) (hbody : p.parent? = some body)
      (hkind : body.kind = "class_body") (hclass : body.parent? = some c) : ClassMember c p p.tree
  | field {p field body : Place} (hp : isExpression p.kind = true)
      (hvalue : p.isField "value" = true) (hfield : p.parent? = some field)
      (hfieldKind : fields.contains field.kind = true) (hbody : field.parent? = some body)
      (hkind : body.kind = "class_body") (hclass : body.parent? = some c) :
      ClassMember c p field.tree

/-- The function at a place is a method of an object or the value of a pair in it. The last
node is the one that has the key. -/
inductive ObjectMember (object : Place) : Place → SyntaxTree → Prop
  | method {p : Place} (hp : p.kind = method) (hobject : p.parent? = some object) :
      ObjectMember object p p.tree
  | pair {p pair : Place} (hp : isExpression p.kind = true) (hvalue : p.isField "value" = true)
      (hpair : p.parent? = some pair) (hkind : pair.kind = "pair")
      (hobject : pair.parent? = some object) : ObjectMember object p pair.tree

/-- A variable is bound to the object at a place. -/
def BoundTo (object : Place) (word : SyntaxTree) : Prop :=
  object.kind = "object" ∧ ∃ declarator, object.parent? = some declarator ∧
    declarator.kind = "variable_declarator" ∧ declarator.tree.child? "name" = some word ∧
    word.kind = "identifier"

theorem objectOwner?_of_boundTo {source : SourceText} {object : Place} {word : SyntaxTree}
    (h : BoundTo object word) : objectOwner? source object = some (word.text source) := by
  obtain ⟨hobject, declarator, hparent, hkind, hname, hword⟩ := h
  rw [objectOwner?, if_pos hobject, objectBinding?, hparent]
  show (if declarator.kind = "variable_declarator" then
    boundName? source declarator.tree else none) = _
  rw [if_pos hkind, boundName?, hname, Option.bind_some, identifier?, if_pos hword]

section Names

variable {source : SourceText} {p parent : Place} {holder key : SyntaxTree} {name : String}

/-- The value of a field is named by the field, behind the class. -/
theorem valueName?_of_field (hkind : fields.contains parent.kind = true)
    (hvalue : p.isField "value" = true) : valueName? source p parent =
      (writtenName? source parent.tree).map (qualify (enclosingClassName? source parent)) := by
  have hdeclarator : parent.kind ≠ "variable_declarator" := by
    intro h
    rw [h] at hkind
    exact absurd hkind (by decide)
  rw [valueName?, if_neg hdeclarator, if_pos hkind, if_pos hvalue]

/-- The value of a pair is named by its key, behind the owner of the object. -/
theorem valueName?_of_pair (hkind : parent.kind = "pair") (hvalue : p.isField "value" = true) :
    valueName? source p parent = ((parent.tree.child? "key").bind (textOf? source)).map
      (qualify (parent.parent?.bind (objectOwner? source))) := by
  rw [valueName?, hkind, if_neg (by decide), if_neg (by decide), if_pos rfl, if_pos hvalue]
  cases (parent.tree.child? "key").bind (textOf? source) <;> rfl

/-- The name that is written at a member is the text of its key. -/
theorem eq_of_writtenName? {node : SyntaxTree} (hkind : node.kind = method ∨
    fields.contains node.kind = true) (hkey : keyOf? node = some key) {text : String}
    (htext : writtenName? source node = some text) : text = key.text source := by
  obtain ⟨named, hnamed, rfl⟩ := writtenName?_eq_some htext
  rw [keyOf?, if_pos hkind, hnamed] at hkey
  rw [Option.some.inj hkey]

/-- A method is its key behind its owner. -/
theorem eq_of_name?_method (hp : p.kind = method) (hparent : p.parent? = some parent)
    (hkey : keyOf? p.tree = some key) (hname : name? source p = some name) :
    name = qualify (methodOwner? source p parent) (key.text source) := by
  rw [name?_of_method source hp] at hname
  obtain ⟨text, htext, hrest⟩ := Option.bind_eq_some_iff.mp hname
  rw [hparent] at hrest
  rw [← eq_of_writtenName? (.inl hp) hkey htext]
  exact (Option.some.inj hrest).symm

/-- A member of a class is its key behind the name of the class. -/
theorem eq_of_name?_classMember {c : Place} (hclass : classes.contains c.kind = true)
    (hmember : ClassMember c p holder) (hkey : keyOf? holder = some key)
    (hname : name? source p = some name) :
    name = qualify (writtenName? source c.tree) (key.text source) := by
  -- between a member and its class there is only the body
  have hbody : ∀ {q body : Place}, q.parent? = some body → body.kind = "class_body" →
      body.parent? = some c → enclosingClassName? source q = writtenName? source c.tree := by
    intro q body hparent hkind hc
    refine enclosingClassName?_of_inClass (.above hparent ?_ (.parent hc hclass))
    rw [hkind]
    decide
  cases hmember with
  | method hp hparent hkind hc =>
    rw [eq_of_name?_method hp hparent hkey hname, methodOwner?, if_pos hkind,
      hbody hparent hkind hc]
  | field hp hvalue hparent hfield hup hkind hc =>
    rw [name?_of_expression source hp, hparent, Option.bind_some,
      valueName?_of_field hfield hvalue] at hname
    obtain ⟨text, htext, rfl⟩ := Option.map_eq_some_iff.mp hname
    rw [eq_of_writtenName? (.inr hfield) hkey htext, hbody hup hkind hc]

/-- A member of an object is its key behind the variable that is bound to the object. -/
theorem eq_of_name?_objectMember {object : Place} {word : SyntaxTree}
    (hbound : BoundTo object word) (hmember : ObjectMember object p holder)
    (hkey : keyOf? holder = some key) (hname : name? source p = some name) :
    name = qualify (some (word.text source)) (key.text source) := by
  have howner : objectOwner? source object = some (word.text source) :=
    objectOwner?_of_boundTo hbound
  cases hmember with
  | method hp hparent =>
    have hkind : object.kind ≠ "class_body" := by
      rw [hbound.1]
      decide
    rw [eq_of_name?_method hp hparent hkey hname, methodOwner?, if_neg hkind, howner]
  | @pair pair hp hvalue hparent hkind hup =>
    have hnokey : ¬ (pair.tree.kind = method ∨ fields.contains pair.tree.kind = true) := by
      rw [show pair.tree.kind = "pair" from hkind]
      decide
    rw [keyOf?, if_neg hnokey, if_pos (show pair.tree.kind = "pair" from hkind)] at hkey
    rw [name?_of_expression source hp, hparent, Option.bind_some,
      valueName?_of_pair hkind hvalue, hkey, hup, Option.bind_some, Option.bind_some,
      howner] at hname
    obtain ⟨text, htext, rfl⟩ := Option.map_eq_some_iff.mp hname
    rw [(textOf?_eq_some htext).1]

end Names

end Naming

namespace CallSite

open Naming

/-! ## Calls of members -/

/-- A call of what stands behind a point, or a point with a question mark. -/
def CallsMember (source : SourceText) (p : Place) (object : SyntaxTree) (word : String) : Prop :=
  p.kind = "call_expression" ∧ ∃ called property, p.tree.child? "function" = some called ∧
    called.kind = "member_expression" ∧ called.child? "object" = some object ∧
    called.child? "property" = some property ∧ property.text source = word

/-- The call at `p` is one of the member at `m`. -/
inductive Targets (source : SourceText) (p m : Place) : Prop
  /-- `this.key()` where the nearest class is that of the member, and it has a name. -/
  | this {c : Place} {holder key object : SyntaxTree} (hclass : classes.contains c.kind = true)
      (hnamed : (writtenName? source c.tree).isSome = true) (hmember : ClassMember c m holder)
      (hkey : keyOf? holder = some key) (hin : InClass c p)
      (hcall : CallsMember source p object (key.text source)) (hthis : object.kind = "this") :
      Targets source p m
  /-- `variable.key()` where the variable is bound to the object of the member. -/
  | bound {o : Place} {word holder key object : SyntaxTree} (hbound : BoundTo o word)
      (hmember : ObjectMember o m holder) (hkey : keyOf? holder = some key)
      (hcall : CallsMember source p object (key.text source))
      (hidentifier : object.kind = "identifier")
      (hword : object.text source = word.text source) : Targets source p m

variable {source : SourceText} {p m : Place} {object : SyntaxTree} {word name : String}

/-- A member of `this` goes by the class around the call, if that has a name. -/
theorem callee?_of_this (hcall : CallsMember source p object word)
    (hthis : object.kind = "this") :
    callee? source p = (enclosingClassName? source p).map fun c => qualify (some c) word := by
  obtain ⟨-, called, property, hcalled, hkind, hobject, hproperty, rfl⟩ := hcall
  rw [callee?, hcalled]
  simp only [Option.bind_eq_bind, Option.bind_some, hkind, hobject, hproperty, hthis]
  cases enclosingClassName? source p <;> rfl

/-- A member of a variable goes by the variable, whatever that is bound to. -/
theorem callee?_of_identifier (hcall : CallsMember source p object word)
    (hidentifier : object.kind = "identifier") :
    callee? source p = some (qualify (some (object.text source)) word) := by
  obtain ⟨-, called, property, hcalled, hkind, hobject, hproperty, rfl⟩ := hcall
  rw [callee?, hcalled]
  simp only [Option.bind_eq_bind, Option.bind_some, hkind, hobject, hproperty, hidentifier]
  rfl

/-- What is called goes by the name of the member. -/
theorem callee?_of_targets (h : Targets source p m) (hname : name? source m = some name) :
    callee? source p = some name := by
  cases h with
  | this hclass hnamed hmember hkey hin hcall hthis =>
    obtain ⟨className, hc⟩ := Option.isSome_iff_exists.mp hnamed
    rw [callee?_of_this hcall hthis, enclosingClassName?_of_inClass hin,
      eq_of_name?_classMember hclass hmember hkey hname, hc, Option.map_some]
  | bound hbound hmember hkey hcall hidentifier hword =>
    rw [callee?_of_identifier hcall hidentifier,
      eq_of_name?_objectMember hbound hmember hkey hname, hword]

theorem kind_of_targets (h : Targets source p m) : p.kind = "call_expression" := by
  cases h with
  | this _ _ _ _ _ hcall => exact hcall.1
  | bound _ _ _ hcall => exact hcall.1

/-- **Calls of members come to their functions.** A call of a member of a class by `this`, in
whatever functions and blocks it stands within the class, and a call of a member of an object
by the variable of the object, go by the name of the member: by that under which the member is
recorded. If a function with a name is around such a call, it is recorded as a call between the
two. -/
theorem member_call_resolved {source : SourceText} {t : SyntaxTree} {p m : Place} {name : String}
    (hp : Place.Within t p) (hm : Place.Within t m) (htargets : Targets source p m)
    (hname : name? source m = some name) :
    callee? source p = some name ∧
    FunctionInfo.ofPlace source name m ∈ FunctionInfo.listOf source t ∧
    ∀ caller, caller? source p = some caller →
      (⟨caller, name, p.tree.info.startPoint.row + 1,
        some (p.tree.info.startPoint.column + 1)⟩ : CallSite) ∈
          among source (FunctionInfo.listOf source t) t := by
  have hcallee := callee?_of_targets htargets hname
  have hfunction : FunctionInfo.at? source m = some (FunctionInfo.ofPlace source name m) := by
    rw [FunctionInfo.at?, hname, Option.map_some]
  refine ⟨hcallee, ?_, fun caller hcaller => ?_⟩
  · rw [FunctionInfo.listOf_eq_filterMap, List.mem_filterMap]
    exact ⟨m, SyntaxTree.mem_visits_iff.mpr hm, hfunction⟩
  · rw [among_eq_filterMap, List.mem_filterMap]
    refine ⟨p, SyntaxTree.mem_visits_iff.mpr hp, ?_⟩
    rw [siteAt?, if_pos (kind_of_targets htargets), hcaller, hcallee]
    exact if_pos (FunctionInfo.name_mem_listOf hm hname)

/-- The tree of `class A{#k(){()=>this?.#k()}}`. -/
def privateCall : SyntaxTree :=
  .onLine "program" none 0 29 [
    .onLine "class_declaration" none 0 29 [
      .fixed "class" 0 5,
      .onLine "type_identifier" (some "name") 6 7 [],
      .onLine "class_body" (some "body") 7 29 [
        .fixed "\x7b" 7 8,
        .onLine "method_definition" none 8 28 [
          .onLine "private_property_identifier" (some "name") 8 10 [],
          .onLine "formal_parameters" (some "parameters") 10 12 [
            .fixed "(" 10 11,
            .fixed ")" 11 12],
          .onLine "statement_block" (some "body") 12 28 [
            .fixed "\x7b" 12 13,
            .onLine "expression_statement" none 13 27 [
              .onLine "arrow_function" none 13 27 [
                .onLine "formal_parameters" (some "parameters") 13 15 [
                  .fixed "(" 13 14,
                  .fixed ")" 14 15],
                .fixed "=>" 15 17,
                .onLine "call_expression" (some "body") 17 27 [
                  .onLine "member_expression" (some "function") 17 25 [
                    .onLine "this" (some "object") 17 21 [],
                    .onLine "optional_chain" (some "optional_chain") 21 23 [
                      .fixed "?." 21 23],
                    .onLine "private_property_identifier" (some "property") 23 25 []],
                  .onLine "arguments" (some "arguments") 25 27 [
                    .fixed "(" 25 26,
                    .fixed ")" 26 27]]]],
            .fixed "\x7d" 27 28]],
        .fixed "\x7d" 28 29]]]

/-- The call is one of the method, though an arrow function is between them and the point has a
question mark: it is recorded as one of the method by itself. -/
theorem member_call_resolved_private :
    let source := SourceText.ofString "class A{#k(){()=>this?.#k()}}"
    let method := privateCall.placeAt 6
    let call := privateCall.placeAt 19
    (Place.Within privateCall call ∧ Place.Within privateCall method ∧
      Targets source call method ∧ name? source method = some "A.#k") ∧
    callee? source call = some "A.#k" ∧
    (⟨"A.#k", "A.#k", 1, some 18⟩ : CallSite) ∈
      among source (FunctionInfo.listOf source privateCall) privateCall := by
  intro source method call
  have hcall : Place.Within privateCall call :=
    SyntaxTree.mem_visits_iff.mp (privateCall.placeAt_mem 19)
  have hmethod : Place.Within privateCall method :=
    SyntaxTree.mem_visits_iff.mp (privateCall.placeAt_mem 6)
  have hname : name? source method = some "A.#k" := by decide +kernel
  have htargets : Targets source call method := by
    exact .this (c := privateCall.placeAt 1) (by decide +kernel) (by decide +kernel)
      (.method rfl rfl rfl rfl) rfl (Place.ancestor?_eq_some_iff.mp rfl)
      ⟨rfl, _, _, rfl, rfl, rfl, rfl, by decide +kernel⟩ rfl
  have hcaller : caller? source call = some "A.#k" := by decide +kernel
  obtain ⟨hcallee, -, hsite⟩ := member_call_resolved hcall hmethod htargets hname
  exact ⟨⟨hcall, hmethod, htargets, hname⟩, hcallee, hsite "A.#k" hcaller⟩

end CallSite

end CallAtlas
