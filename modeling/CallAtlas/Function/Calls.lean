import CallAtlas.Function.Naming
import CallAtlas.Number.Basic
import CallAtlas.Syntax.Walk
import Std.Data.HashSet.Basic

/-!
# The calls of a tree

A call inside a function with a name, of a function whose name is known, is a call
site. Its caller is the innermost function around it that has a name. What it calls
goes by the names that functions have: an identifier, a member of the variable that
holds the object, or a member of the class around the call.
-/

namespace CallAtlas

namespace CallSite

/-- The name of what the call at a place calls. -/
def callee? (source : SourceText) (p : Place) : Option String := do
  let called ← p.tree.child? "function"
  if called.kind = "identifier" then some (called.text source)
  else if called.kind = "member_expression" then
    let object ← called.child? "object"
    let property ← called.child? "property"
    let member := property.text source
    if object.kind = "this" then
      return Naming.qualify (some (← Naming.enclosingClassName? source p)) member
    else if object.kind = "identifier" then
      return Naming.qualify (some (object.text source)) member
    else none
  else none

/-- The call at a place, inside a function. -/
def at? (source : SourceText) (known : String → Bool) (caller : Option String) (p : Place) :
    Option CallSite := do
  if p.kind ≠ "call_expression" then none
  let caller ← caller
  let callee ← callee? source p
  let start := p.tree.info.startPoint
  if known callee then some ⟨caller, callee, start.row + 1, some (start.column + 1)⟩ else none

/-! ## The walk -/

/-- A place that a walk has still to enter, and the function around it, by its index in
the table of the names met so far. -/
structure Frame where
  place : Place
  around : Option Nat

/-- The table of names after a place is entered, and the function around the children of
the place. A function without a name leaves both as they are. -/
def opened (source : SourceText) (names : Array String) (f : Frame) :
    Array String × Option Nat :=
  match Naming.name? source f.place with
  | some name => (names.push name, some names.size)
  | none => (names, f.around)

/-- How many nodes are at and below some places. -/
def waiting (todo : List Frame) : Nat :=
  Number.total (todo.map fun f => f.place.tree.nodeCount)

theorem waiting_append (fs gs : List Frame) : waiting (fs ++ gs) = waiting fs + waiting gs := by
  unfold waiting
  induction fs with
  | nil => simp [Number.total]
  | cons f fs ih => simp only [List.cons_append, List.map_cons, Number.total, ih, Nat.add_assoc]

/-- What waits after a place is entered is all below it, so the stack gets smaller. -/
theorem waiting_children (p : Place) (around : Option Nat) :
    waiting (p.children.map (⟨·, around⟩)) = SyntaxTree.nodeCountIn p.tree.children := by
  have hgo : ∀ (cs before : List SyntaxTree),
      waiting ((Place.children.go p before cs).map (⟨·, around⟩)) = SyntaxTree.nodeCountIn cs := by
    intro cs
    induction cs with
    | nil => intro before; rfl
    | cons c rest ih =>
      intro before
      have hrest := ih (c :: before)
      simp only [waiting, Place.children.go, List.map_cons, Number.total,
        SyntaxTree.nodeCountIn] at hrest ⊢
      rw [hrest]
  exact hgo _ _

/-- Enters all places that are left, the first one first. The children of a place come
before what was left. -/
def walkOn (source : SourceText) (known : String → Bool) (todo : List Frame)
    (names : Array String) (found : Array CallSite) : Array CallSite :=
  match todo with
  | [] => found
  | f :: todo =>
    let (names, around) := opened source names f
    walkOn source known (f.place.children.map (⟨·, around⟩) ++ todo) names
      (SyntaxTree.note found (at? source known (around.bind (names[·]?)) f.place))
termination_by waiting todo
decreasing_by
  rw [waiting_append, waiting_children]
  simp only [waiting, List.map_cons, Number.total, SyntaxTree.nodeCount_eq f.place.tree]
  omega

/-- The calls of functions with known names, in the order of the text. -/
def listOf (source : SourceText) (known : String → Bool) (t : SyntaxTree) : List CallSite :=
  (walkOn source known [⟨Place.root t, none⟩] #[] #[]).toList

/-- The calls among some functions. -/
def among (source : SourceText) (functions : List FunctionInfo) (t : SyntaxTree) :
    List CallSite :=
  let names := Std.HashSet.ofList (functions.map FunctionInfo.name)
  if functions.isEmpty then [] else listOf source names.contains t

end CallSite

end CallAtlas
