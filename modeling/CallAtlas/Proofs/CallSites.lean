import CallAtlas.Function.Calls
import CallAtlas.Proofs.Preorder
import Std.Data.HashSet.Lemmas

/-!
# The calls of a tree: who calls whom

The walk of `CallSite.walkOn` keeps the functions around the places that are still to
come as indices into a table of names that only grows. `opened_spec` is the step: the
index handed to the children of a place stands for the name of the function there, or
for what stood for the place itself where no function with a name is. So the walk is
the recursion `Place.collect` with the name handed down (`walkOn_spec`), and what is
handed to a place is the name of the innermost function around it (`caller?`).
-/

namespace CallAtlas

namespace CallSite

/-! ## The caller and the record of a call -/

/-- The name of the innermost function with a name around a place. -/
def caller? (source : SourceText) (p : Place) : Option String :=
  (p.ancestor? fun q => Naming.isFunction q.kind && (Naming.name? source q).isSome).bind
    (Naming.name? source)

/-- The record of the call at a place, if it is inside a function with a name and calls
one of some functions. -/
def siteAt? (source : SourceText) (functions : List FunctionInfo) (p : Place) :
    Option CallSite :=
  if p.kind = "call_expression" then
    match caller? source p, callee? source p with
    | some caller, some callee =>
      if callee ∈ functions.map FunctionInfo.name then
        some ⟨caller, callee, p.tree.info.startPoint.row + 1,
          some (p.tree.info.startPoint.column + 1)⟩
      else none
    | _, _ => none
  else none

/-- The function around the children of a place, `outer` being the one around the
place. -/
def enclosing (source : SourceText) (outer : Option String) (p : Place) : Option String :=
  (Naming.name? source p).or outer

/-- Whether one of some functions has a name. -/
def isKnown (functions : List FunctionInfo) (name : String) : Bool :=
  functions.any (·.name == name)

theorem isKnown_iff {functions : List FunctionInfo} {name : String} :
    isKnown functions name = true ↔ name ∈ functions.map FunctionInfo.name := by
  simp [isKnown]

/-! ## The table of names -/

/-- The function around a place that is still to come. -/
def Frame.name? (names : Array String) (f : Frame) : Option String := f.around.bind (names[·]?)

/-- The index of a frame is one of the table. -/
def Frame.Valid (names : Array String) (f : Frame) : Prop :=
  ∀ i, f.around = some i → i < names.size

/-- A table with more names at the end changes nothing for what was in it. -/
theorem Frame.push_names {names : Array String} {f : Frame} (h : f.Valid names) (name : String) :
    f.Valid (names.push name) ∧ f.name? (names.push name) = f.name? names := by
  unfold Valid Frame.name? at *
  cases hf : f.around with
  | none => exact ⟨fun i hi => (nomatch hi), rfl⟩
  | some i =>
    have hi : i < names.size := h i hf
    refine ⟨fun j hj => ?_, ?_⟩
    · obtain rfl := Option.some.inj hj
      rw [Array.size_push]
      exact Nat.lt_succ_of_lt hi
    · show (names.push name)[i]? = names[i]?
      rw [Array.getElem?_push, if_neg (Nat.ne_of_lt hi)]

/-- Entering a place: what the frames that are left stand for stays, and the children
of the place get the function that is around them. -/
theorem opened_spec (source : SourceText) {names : Array String} {f : Frame} {todo : List Frame}
    (hf : f.Valid names) (htodo : ∀ g ∈ todo, g.Valid names) :
    (∀ g ∈ todo, g.Valid (opened source names f).1 ∧
      g.name? (opened source names f).1 = g.name? names) ∧
    ∀ p : Place, (⟨p, (opened source names f).2⟩ : Frame).Valid (opened source names f).1 ∧
      (⟨p, (opened source names f).2⟩ : Frame).name? (opened source names f).1 =
        enclosing source (f.name? names) f.place := by
  unfold opened enclosing
  cases Naming.name? source f.place with
  | none => exact ⟨fun g hg => ⟨htodo g hg, rfl⟩, fun p => ⟨hf, rfl⟩⟩
  | some name =>
    refine ⟨fun g hg => Frame.push_names (htodo g hg) name, fun p => ⟨fun i hi => ?_, ?_⟩⟩
    · obtain rfl := Option.some.inj hi
      rw [Array.size_push]
      exact Nat.lt_succ_self _
    · show (names.push name)[names.size]? = some name
      rw [Array.getElem?_push, if_pos rfl]

/-- What the places of some frames yield, each with the function around it. -/
def pending (source : SourceText) (known : String → Bool) (names : Array String)
    (todo : List Frame) : List CallSite :=
  todo.flatMap fun f => f.place.collect (enclosing source) (at? source known) (f.name? names)

theorem pending_append (source : SourceText) (known : String → Bool) (names : Array String)
    (fs gs : List Frame) : pending source known names (fs ++ gs) =
      pending source known names fs ++ pending source known names gs :=
  List.flatMap_append

/-- What the frame on top yields comes first. -/
theorem pending_cons (source : SourceText) (known : String → Bool) (names : Array String)
    (f : Frame) (todo : List Frame) : pending source known names (f :: todo) =
      f.place.collect (enclosing source) (at? source known) (f.name? names) ++
        pending source known names todo :=
  List.flatMap_cons

/-- The walk with a stack of frames and a table of names is the recursion that hands
the name of the function down the tree. -/
theorem walkOn_spec (source : SourceText) (known : String → Bool) (todo : List Frame)
    (names : Array String) (found : Array CallSite) (hvalid : ∀ f ∈ todo, f.Valid names) :
    (walkOn source known todo names found).toList =
      found.toList ++ pending source known names todo := by
  fun_induction walkOn source known todo names found with
  | case1 names found => exact (List.append_nil _).symm
  | case2 names found f todo names' around hopened ih =>
    obtain ⟨hf, htodo⟩ := List.forall_mem_cons.mp hvalid
    obtain ⟨hleft, hchildren⟩ := opened_spec source hf htodo
    rw [hopened] at hleft hchildren
    -- the new frames stand for what is around the children, the old ones for what they did
    have hvalid' : ∀ g ∈ f.place.children.map (⟨·, around⟩) ++ todo, g.Valid names' := by
      intro g hg
      rcases List.mem_append.mp hg with hg | hg
      · obtain ⟨p, -, rfl⟩ := List.mem_map.mp hg
        exact (hchildren p).1
      · exact (hleft g hg).1
    have hbelow : pending source known names' (f.place.children.map (⟨·, around⟩)) =
        f.place.children.flatMap (Place.collect (enclosing source) (at? source known)
          (enclosing source (f.name? names) f.place)) := by
      rw [pending, List.flatMap_map, List.flatMap_def, List.flatMap_def]
      exact congrArg _ (List.map_congr_left fun p _ => by rw [(hchildren p).2])
    have hrest : pending source known names' todo = pending source known names todo := by
      rw [pending, pending, List.flatMap_def, List.flatMap_def]
      exact congrArg _ (List.map_congr_left fun g hg => by rw [(hleft g hg).2])
    have hhere : around.bind (names'[·]?) = enclosing source (f.name? names) f.place :=
      (hchildren f.place).2
    rw [ih hvalid', SyntaxTree.note_toList, hhere, pending_append, hbelow, hrest, pending_cons,
      Place.collect_eq]
    simp only [List.append_assoc]

/-! ## The function around a place -/

/-- Only functions have names, so `enclosing` need not look at kinds. -/
theorem isFunction_of_name? {source : SourceText} {p : Place} {name : String}
    (h : Naming.name? source p = some name) : Naming.isFunction p.kind = true := by
  unfold Naming.name? at h
  unfold Naming.isFunction
  split at h
  · next hkind => rw [hkind, Bool.true_or, Bool.true_or]
  · split at h
    · next hkind => rw [beq_iff_eq.mpr hkind, Bool.or_true]
    · split at h
      · next hkind => rw [hkind, Bool.or_true, Bool.true_or]
      · cases h

/-- A call is no function. -/
theorem name?_of_call {source : SourceText} {p : Place} (h : p.kind = "call_expression") :
    Naming.name? source p = none := by
  cases hname : Naming.name? source p with
  | none => rfl
  | some name =>
    have hfun := isFunction_of_name? hname
    rw [h] at hfun
    exact absurd hfun (by decide)

/-- What a place hands to its children is the innermost function around them. -/
theorem caller?_child {source : SourceText} {p q : Place} (h : q ∈ p.children) :
    caller? source q = enclosing source (caller? source p) p := by
  obtain ⟨before, habove⟩ := Place.above_of_mem_children h
  unfold caller? enclosing Place.ancestor?
  rw [habove, Place.ancestor?.go]
  cases hname : Naming.name? source ⟨p.tree, p.above⟩ with
  | none => simp
  | some name => simp [hname, isFunction_of_name? hname]

/-- What the walk finds at a place, with the name that was handed down, is what is told of the
place by itself. -/
theorem at?_eq_siteAt? (source : SourceText) (functions : List FunctionInfo) (p : Place) :
    at? source (isKnown functions) (enclosing source (caller? source p) p) p =
      siteAt? source functions p := by
  unfold at? siteAt?
  by_cases hkind : p.kind = "call_expression"
  · rw [enclosing, name?_of_call hkind, Option.none_or]
    cases hcaller : caller? source p with
    | none => simp [hkind]
    | some caller =>
      cases hcallee : callee? source p with
      | none => simp [hkind]
      | some callee => simp [hkind, isKnown_iff]
  · simp [hkind]

/-- The walk is the recursion from the root, where no function is around. -/
theorem listOf_eq_collect (source : SourceText) (known : String → Bool) (t : SyntaxTree) :
    listOf source known t = t.collect (enclosing source) (at? source known) none [] := by
  have hvalid : ∀ f ∈ [(⟨Place.root t, none⟩ : Frame)], f.Valid #[] := by
    intro f hf i hi
    obtain rfl := List.mem_singleton.mp hf
    cases hi
  rw [listOf, walkOn_spec source known _ _ _ hvalid]
  simp [pending, Place.collect, Frame.name?, Place.root]

/-- The walk lists the calls of the places in preorder. -/
theorem listOf_eq_filterMap (source : SourceText) (functions : List FunctionInfo)
    (t : SyntaxTree) : listOf source (isKnown functions) t =
      t.visits.filterMap (siteAt? source functions) := by
  calc listOf source (isKnown functions) t
    _ = (Place.root t).collect (enclosing source) (at? source (isKnown functions))
          (caller? source (Place.root t)) := listOf_eq_collect source _ t
    _ = (Place.root t).subtree.filterMap fun p =>
          at? source (isKnown functions) (enclosing source (caller? source p) p) p :=
        Place.collect_eq_filterMap (caller? source) (fun p q hq => caller?_child hq) _
    _ = t.visits.filterMap (siteAt? source functions) := by
        rw [SyntaxTree.visits_eq_subtree]
        exact congrArg (List.filterMap · _) (funext fun p => at?_eq_siteAt? source functions p)

theorem siteAt?_of_no_functions (source : SourceText) (p : Place) : siteAt? source [] p = none := by
  unfold siteAt?
  split
  · cases caller? source p <;> cases callee? source p <;> rfl
  · rfl

/-- A tree without functions is not walked, which changes nothing. -/
theorem among_eq_listOf (source : SourceText) (functions : List FunctionInfo) (t : SyntaxTree) :
    among source functions t = listOf source (isKnown functions) t := by
  cases functions with
  | nil =>
    rw [listOf_eq_filterMap]
    exact (List.filterMap_eq_nil_iff.mpr fun p _ => siteAt?_of_no_functions source p).symm
  | cons f rest =>
    have hknown : (Std.HashSet.ofList ((f :: rest).map FunctionInfo.name)).contains =
        isKnown (f :: rest) := by
      funext name
      rw [Std.HashSet.contains_ofList, Bool.eq_iff_iff, isKnown_iff, List.contains_iff_mem]
    rw [← hknown]
    rfl

/-- The shortcut for no functions changes nothing: no call has a known callee then. -/
theorem among_eq_filterMap (source : SourceText) (functions : List FunctionInfo)
    (t : SyntaxTree) :
    among source functions t = t.visits.filterMap (siteAt? source functions) := by
  rw [among_eq_listOf, listOf_eq_filterMap]

/-- **Calls go by the innermost function around them.** The calls of a tree are the
records of its places in the order of the text, each place of the tree taken once; and
they are what the recursion gives that hands the name of the function around down the
tree. -/
theorem among_innermost (source : SourceText) (functions : List FunctionInfo)
    (t : SyntaxTree) :
    among source functions t = t.visits.filterMap (siteAt? source functions) ∧
    among source functions t =
      t.collect (enclosing source) (at? source (isKnown functions)) none [] ∧
    (t.visits.Pairwise fun a b => a.address < b.address) ∧
    ∀ p, p ∈ t.visits ↔ Place.Within t p := by
  refine ⟨among_eq_filterMap source functions t, ?_, t.visits_increasing, fun p => ?_⟩
  · rw [among_eq_listOf, listOf_eq_collect]
  · exact SyntaxTree.mem_visits_iff

end CallSite

end CallAtlas
