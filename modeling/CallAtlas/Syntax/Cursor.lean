import CallAtlas.Number.Basic
import CallAtlas.Syntax.Walk

/-!
# Cursors

A cursor stands on a node of a tree and goes from there to the first child, to the
next sibling or to the parent. A walk goes down as long as there are children, and
then on to the next sibling of the node or of the nearest node above that has one.
-/

namespace CallAtlas

/-- A place, and the siblings behind its node and behind each node above it but the
root, the nearest first. -/
structure Cursor where
  place : Place
  after : List (List SyntaxTree)
  deriving Inhabited

namespace Cursor

/-- The cursor on a root. -/
def ofRoot (t : SyntaxTree) : Cursor := ⟨Place.root t, []⟩

/-- Goes to the first child. -/
def firstChild? (c : Cursor) : Option Cursor :=
  match c.place.tree.children with
  | [] => none
  | t :: rest => some ⟨⟨t, ⟨c.place.tree, []⟩ :: c.place.above⟩, rest :: c.after⟩

/-- Goes to the next sibling. -/
def nextSibling? (c : Cursor) : Option Cursor :=
  match c.place.above, c.after with
  | crumb :: above, (t :: rest) :: after =>
    some ⟨⟨t, { crumb with before := c.place.tree :: crumb.before } :: above⟩, rest :: after⟩
  | _, _ => none

/-- Goes to the parent. -/
def parent? (c : Cursor) : Option Cursor :=
  match c.place.above, c.after with
  | crumb :: above, _ :: after => some ⟨⟨crumb.parent, above⟩, after⟩
  | _, _ => none

/-- A cursor on the parent has one list of siblings fewer behind it. -/
theorem parent?_after {c p : Cursor} (h : c.parent? = some p) :
    p.after.length < c.after.length := by
  unfold parent? at h
  split at h
  · next hafter =>
    rw [← Option.some.inj h, hafter]
    exact Nat.lt_succ_self _
  · cases h

/-- Goes to the next sibling of the node, or of the nearest node above that has one. -/
def leave (c : Cursor) : Option Cursor :=
  match c.nextSibling? with
  | some d => some d
  | none => match _h : c.parent? with
    | some p => p.leave
    | none => none
termination_by c.after.length
decreasing_by exact parent?_after _h

/-- Goes to the next place in preorder. -/
def advance (c : Cursor) : Option Cursor :=
  match c.firstChild? with
  | some d => some d
  | none => c.leave

/-- How many nodes are behind a cursor: those after its node that are not below it. -/
def behind (c : Cursor) : Nat := Number.total (c.after.map SyntaxTree.nodeCountIn)

/-- How many nodes a walk has still to leave, the node of the cursor included. -/
def ahead (c : Cursor) : Nat := c.place.tree.nodeCount + c.behind

theorem ahead_ofRoot (t : SyntaxTree) : (ofRoot t).ahead = t.nodeCount := rfl

/-- The next sibling is the first of the nodes behind. -/
theorem ahead_nextSibling? {c d : Cursor} (h : c.nextSibling? = some d) : d.ahead = c.behind := by
  unfold nextSibling? at h
  split at h
  · next hafter =>
    rw [← Option.some.inj h]
    simp [ahead, behind, hafter, Number.total, SyntaxTree.nodeCountIn]
    omega
  · cases h

theorem behind_parent? {c p : Cursor} (h : c.parent? = some p) : p.behind ≤ c.behind := by
  unfold parent? at h
  split at h
  · next hafter =>
    rw [← Option.some.inj h]
    simp [behind, hafter, Number.total]
  · cases h

/-- What is left after `leave` was all behind the cursor. -/
theorem ahead_leave (c : Cursor) {d : Cursor} (h : c.leave = some d) : d.ahead ≤ c.behind := by
  rw [leave] at h
  split at h
  · next e hnext =>
    rw [← Option.some.inj h]
    exact Nat.le_of_eq (ahead_nextSibling? hnext)
  · split at h
    · next p hparent => exact Nat.le_trans (ahead_leave p h) (behind_parent? hparent)
    · cases h
termination_by c.after.length
decreasing_by exact parent?_after (by assumption)

theorem ahead_firstChild? {c d : Cursor} (h : c.firstChild? = some d) : d.ahead < c.ahead := by
  unfold firstChild? at h
  split at h
  · cases h
  · next t rest hchildren =>
    rw [← Option.some.inj h]
    simp [ahead, behind, Number.total, SyntaxTree.nodeCount_eq c.place.tree, hchildren,
      SyntaxTree.nodeCountIn]
    omega

/-- Each move leaves a node, so a walk comes to an end. -/
theorem ahead_advance {c d : Cursor} (h : c.advance = some d) : d.ahead < c.ahead := by
  unfold advance at h
  split at h
  · next e hchild =>
    rw [← Option.some.inj h]
    exact ahead_firstChild? hchild
  · have hle := ahead_leave c h
    have hpos := SyntaxTree.nodeCount_eq c.place.tree
    unfold ahead at hle ⊢
    omega

/-- Adds what the places from a cursor on yield. -/
def walkOn {β : Type} (yield : Place → Option β) (c : Cursor) (found : Array β) : Array β :=
  let found := SyntaxTree.note found (yield c.place)
  match _h : c.advance with
  | some d => walkOn yield d found
  | none => found
termination_by c.ahead
decreasing_by exact ahead_advance _h

/-- What the places of a tree yield in preorder. -/
def walk {β : Type} (yield : Place → Option β) (t : SyntaxTree) : Array β :=
  walkOn yield (ofRoot t) #[]

end Cursor

end CallAtlas
