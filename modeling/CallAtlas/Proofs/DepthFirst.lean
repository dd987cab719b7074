import CallAtlas.Layout.Digraph
import Mathlib.Algebra.Order.BigOperators.Group.List
import Mathlib.Algebra.Order.Ring.Nat
import Mathlib.Data.List.Chain
import Mathlib.Data.List.Nodup
import Mathlib.Data.Nat.Notation
import Mathlib.Logic.Relation

/-!
# Searching a graph: the edges that close cycles

The search of `Digraph.search` keeps a stack of the numbers that it has entered. Put the
stack, the bottom first, before the numbers that were left, the last first: this is the
`line` of the search. Entering a number puts it into the line, leaving a number changes
nothing, so what stands before what in the line stays so for good.

`Search.Inv` is what each step keeps: an edge that was looked at goes forward in the line
or was noted as one that closes a cycle, and those that were noted go backward in the
line and lie on a cycle. When the stack is empty the line is the order of the search.

From this follow the main results. Turning the noted edges around leaves edges that go
forward in the order (`sorts_unlooped`), so there is no cycle (`unlooped_acyclic`). And
the order that `sorted?` gives is one in which all edges go forward, which it gives for
every graph without cycles (`sorted?_sorts`).
-/

namespace CallAtlas

namespace Digraph

open scoped List

/-! ## Edges -/

/-- There is an edge from one number to another. -/
def Arrow (g : Digraph) (u v : Nat) : Prop := v ∈ g.next u

/-- All edges are between numbers of the graph. -/
def InRange (g : Digraph) : Prop := ∀ u v, g.Arrow u v → v < g.size

/-- No edge goes from a number to itself. -/
def Loopless (g : Digraph) : Prop := ∀ u, ¬g.Arrow u u

/-- No way along edges leads back to where it begins. -/
def Acyclic (g : Digraph) : Prop := ∀ u, ¬Relation.TransGen g.Arrow u u

/-- Only numbers of the graph have successors. -/
theorem Arrow.source_lt {g : Digraph} {u v : Nat} (h : g.Arrow u v) : u < g.size := by
  by_contra hle
  have hnext : g.next u = [] := by
    rw [next, Array.getD_eq_getD_getElem?, Array.getElem?_eq_none (Nat.le_of_not_lt hle)]
    rfl
  rw [Arrow, hnext] at h
  cases h

theorem mem_edges_iff {g : Digraph} {u v : Nat} : (u, v) ∈ g.edges ↔ g.Arrow u v := by
  unfold edges
  rw [List.mem_flatMap]
  constructor
  · rintro ⟨w, -, hmem⟩
    obtain ⟨x, hx, heq⟩ := List.mem_map.mp hmem
    obtain ⟨rfl, rfl⟩ := Prod.mk.inj heq
    exact hx
  · intro h
    exact ⟨u, List.mem_range.mpr h.source_lt, List.mem_map_of_mem h⟩

theorem size_link (g : Digraph) (edge : Nat × Nat) : (g.link edge).size = g.size :=
  Array.size_modify

/-- An edge that is added is there afterwards, if it begins at a number of the graph, and no other
one is new. -/
theorem arrow_link_iff {g : Digraph} {a b u v : Nat} :
    (g.link (a, b)).Arrow u v ↔ g.Arrow u v ∨ ((u, v) = (a, b) ∧ u < g.size) := by
  unfold Arrow next link size
  rw [Array.getD_eq_getD_getElem?, Array.getD_eq_getD_getElem?, Array.getElem?_modify]
  by_cases hau : a = u
  · subst hau
    rw [if_pos rfl]
    cases hnext : g.successors[a]? with
    | none =>
      have hle := Array.getElem?_eq_none_iff.mp hnext
      simp [Nat.not_lt.mpr hle]
    | some vs =>
      obtain ⟨hlt, -⟩ := Array.getElem?_eq_some_iff.mp hnext
      by_cases hb : vs.contains b = true
      · have hmem := List.contains_iff_mem.mp hb
        simp only [Option.map_some, Option.getD_some, if_pos hb, Prod.mk.injEq, true_and]
        exact ⟨Or.inl, fun h => h.elim id fun h => h.1 ▸ hmem⟩
      · simp only [Option.map_some, Option.getD_some, if_neg hb, List.mem_cons,
          Prod.mk.injEq, true_and]
        exact ⟨fun h => h.elim (fun h => .inr ⟨h, hlt⟩) .inl,
          fun h => h.elim .inr fun h => .inl h.1⟩
  · rw [if_neg hau]
    refine ⟨Or.inl, fun h => h.elim id fun h => ?_⟩
    exact absurd (Prod.mk.inj h.1).1.symm hau

/-- Adding edges keeps the numbers of the graph and adds just those that begin at one of them. -/
theorem foldl_link_spec {u v : Nat} : ∀ (es : List (Nat × Nat)) (g : Digraph),
    (es.foldl link g).size = g.size ∧
    ((es.foldl link g).Arrow u v ↔ g.Arrow u v ∨ ((u, v) ∈ es ∧ u < g.size)) := by
  intro es
  induction es with
  | nil =>
    intro g
    exact ⟨rfl, Or.inl, fun h => h.elim id fun h => absurd h.1 List.not_mem_nil⟩
  | cons e es ih =>
    intro g
    obtain ⟨hsize, harrow⟩ := ih (g.link e)
    rw [size_link] at hsize harrow
    refine ⟨hsize, ?_⟩
    rw [List.foldl_cons, harrow, arrow_link_iff, List.mem_cons, or_and_right, or_assoc]

theorem size_ofEdges (n : Nat) (es : List (Nat × Nat)) : (ofEdges n es).size = n := by
  rw [ofEdges, (foldl_link_spec (u := 0) (v := 0) es (isolated n)).1]
  exact Array.size_replicate

/-- A graph that is made of edges has these, as far as they begin at its numbers. -/
theorem arrow_ofEdges_iff {n : Nat} {es : List (Nat × Nat)} {u v : Nat} :
    (ofEdges n es).Arrow u v ↔ (u, v) ∈ es ∧ u < n := by
  have hnone : ¬(isolated n).Arrow u v := by
    unfold Arrow next isolated
    rw [Array.getD_eq_getD_getElem?, Array.getElem?_replicate]
    split <;> exact List.not_mem_nil
  rw [ofEdges, (foldl_link_spec es (isolated n)).2, isolated, size, Array.size_replicate]
  exact ⟨fun h => h.elim (fun h => absurd h hnone) id, .inr⟩

/-! ## What stands before what -/

/-- One number stands before another one in a list. -/
def Before (l : List Nat) (u v : Nat) : Prop := [u, v] <+ l

/-- What stands before something does so in every list that has more. -/
theorem Before.mono {l l' : List Nat} {u v : Nat} (h : Before l u v) (hl : l <+ l') :
    Before l' u v :=
  h.trans hl

/-- What is in the first of two lists stands before what is in the second. -/
theorem before_append {xs ys : List Nat} {u v : Nat} (hu : u ∈ xs) (hv : v ∈ ys) :
    Before (xs ++ ys) u v :=
  (List.singleton_sublist.mpr hu).append (List.singleton_sublist.mpr hv)

/-- Where no number is repeated, what stands before something has a lower index. -/
theorem Before.idxOf_lt {l : List Nat} {u v : Nat} (hl : l.Nodup) (h : Before l u v) :
    l.idxOf u < l.idxOf v := by
  unfold Before at h
  induction l with
  | nil => cases h
  | cons x xs ih =>
    obtain ⟨hx, hxs⟩ := List.nodup_cons.mp hl
    cases h with
    | cons _ h =>
      have hu : x ≠ u := fun heq => hx (heq ▸ h.subset (List.mem_cons_self ..))
      have hv : x ≠ v := fun heq =>
        hx (heq ▸ h.subset (List.mem_cons_of_mem _ (List.mem_cons_self ..)))
      rw [List.idxOf_cons_ne _ hu, List.idxOf_cons_ne _ hv]
      exact Nat.succ_lt_succ (ih hxs h)
    | cons_cons _ h =>
      have hv : u ≠ v := fun heq => hx (heq ▸ List.singleton_sublist.mp h)
      rw [List.idxOf_cons_self, List.idxOf_cons_ne _ hv]
      exact Nat.succ_pos _

/-! ## The invariant of the search -/

namespace Search

/-- The numbers that were entered, in the order of the stack and behind it in the order
in which they were left, the last first. -/
def line (s : Search) (stack : List (Nat × List Nat)) : List Nat :=
  (stack.map Prod.fst).reverse ++ s.order

/-- An edge goes forward in the line or is noted. -/
def Explored (s : Search) (stack : List (Nat × List Nat)) (u v : Nat) : Prop :=
  (u, v) ∈ s.closing ∨ Before (s.line stack) u v

/-- What holds all the time during a search. -/
structure Inv (g : Digraph) (stack : List (Nat × List Nat)) (s : Search) : Prop where
  size : s.marks.size = g.size
  nodup : (s.line stack).Nodup
  active : ∀ u, s.mark u = .active ↔ u ∈ stack.map Prod.fst
  left : ∀ u, s.mark u = .left ↔ u ∈ s.order
  /-- The stack is a way along edges, the top its end. -/
  path : (stack.map Prod.fst).IsChain fun v u => g.Arrow u v
  /-- What is still to be looked at are successors. -/
  todo : ∀ f ∈ stack, ∀ v ∈ f.2, g.Arrow f.1 v
  /-- All other successors have been looked at. -/
  done : ∀ u ∈ s.line stack, ∀ v, g.Arrow u v →
    s.Explored stack u v ∨ ∃ f ∈ stack, f.1 = u ∧ v ∈ f.2
  /-- What is noted goes backward and lies on a cycle. -/
  noted : ∀ u v, (u, v) ∈ s.closing →
    g.Arrow u v ∧ Relation.ReflTransGen g.Arrow v u ∧ (u = v ∨ Before (s.line stack) v u)

variable {g : Digraph} {stack : List (Nat × List Nat)} {s : Search}

/-- What has been put into an array is there, and all else as before. -/
theorem getD_setIfInBounds {β : Type} {a : Array β} {i : Nat} (hi : i < a.size) (x d : β)
    (j : Nat) : (a.setIfInBounds i x).getD j d = if j = i then x else a.getD j d := by
  rw [Array.getD_eq_getD_getElem?, Array.getD_eq_getD_getElem?, Array.getElem?_setIfInBounds]
  by_cases hij : i = j
  · subst hij
    rw [if_pos rfl, if_pos rfl, if_pos hi]
    rfl
  · rw [if_neg hij, if_neg fun heq => hij heq.symm]

/-- Entering a number marks it as active and no other one. -/
theorem mark_enter {u : Nat} (hu : u < s.marks.size) (v : Nat) :
    (s.enter u).mark v = if v = u then .active else s.mark v :=
  getD_setIfInBounds hu _ _ v

theorem mark_leave {u : Nat} (hu : u < s.marks.size) (v : Nat) :
    (s.leave u).mark v = if v = u then .left else s.mark v :=
  getD_setIfInBounds hu _ _ v

/-- Only numbers of the graph are ever marked. -/
theorem lt_of_mark {u : Nat} (h : s.mark u ≠ .unseen) : u < s.marks.size := by
  by_contra hle
  refine h ?_
  rw [mark, Array.getD_eq_getD_getElem?, Array.getElem?_eq_none (Nat.le_of_not_lt hle)]
  rfl

/-- Entering a number puts it into the line. -/
theorem line_enter (s : Search) (v : Nat) (vs : List Nat) (stack : List (Nat × List Nat)) :
    s.line stack <+ (s.enter v).line ((v, vs) :: stack) := by
  rw [line, line, List.map_cons, List.reverse_cons, List.append_assoc]
  exact (List.Sublist.refl _).append (List.sublist_cons_self v s.order)

theorem line_leave (u : Nat) (vs : List Nat) :
    (s.leave u).line stack = s.line ((u, vs) :: stack) := by
  rw [line, line, List.map_cons, List.reverse_cons, List.append_assoc]
  rfl

namespace Inv

/-- The line has the numbers that have been entered. -/
theorem mem_line_iff (h : Inv g stack s) (u : Nat) : u ∈ s.line stack ↔ s.mark u ≠ .unseen := by
  unfold line
  rw [List.mem_append, List.mem_reverse, ← h.active, ← h.left]
  cases s.mark u <;> decide

theorem lt_size (h : Inv g stack s) {u : Nat} (hu : u ∈ s.line stack) : u < g.size := by
  rw [← h.size]
  exact lt_of_mark ((h.mem_line_iff u).mp hu)

/-- Every number on the stack leads to its top. -/
theorem reaches_top {u : Nat} {us : List Nat} (h : (u :: us).IsChain fun v u => g.Arrow u v) :
    ∀ v ∈ u :: us, Relation.ReflTransGen g.Arrow v u := by
  induction us generalizing u with
  | nil =>
    intro v hv
    obtain rfl := List.mem_singleton.mp hv
    exact .refl
  | cons w us ih =>
    intro v hv
    obtain ⟨harrow, hrest⟩ := List.isChain_cons_cons.mp h
    rcases List.mem_cons.mp hv with rfl | hv
    · exact .refl
    · exact (ih hrest v hv).tail harrow

/-! ## Steps -/

/-- A successor that has been looked at need not be kept in its frame. -/
theorem look (before : List (Nat × List Nat)) {u v : Nat} {vs : List Nat}
    (h : Inv g (before ++ (u, v :: vs) :: stack) s)
    (hv : s.Explored (before ++ (u, v :: vs) :: stack) u v) :
    Inv g (before ++ (u, vs) :: stack) s := by
  have hfst : (before ++ (u, vs) :: stack).map Prod.fst =
      (before ++ (u, v :: vs) :: stack).map Prod.fst := by
    rw [List.map_append, List.map_append, List.map_cons, List.map_cons]
  have hline : s.line (before ++ (u, vs) :: stack) =
      s.line (before ++ (u, v :: vs) :: stack) := by
    rw [line, line, hfst]
  -- the line tells whose frames there are, not what is left in them
  have hexplored : ∀ a b, s.Explored (before ++ (u, v :: vs) :: stack) a b →
      s.Explored (before ++ (u, vs) :: stack) a b := fun a b hab => by
    rwa [Explored, hline]
  exact
    { size := h.size
      nodup := hline ▸ h.nodup
      active := fun a => by rw [hfst]; exact h.active a
      left := h.left
      path := hfst ▸ h.path
      todo := fun f hf a ha => by
        rcases List.mem_append.mp hf with hf | hf
        · exact h.todo f (List.mem_append_left _ hf) a ha
        · rcases List.mem_cons.mp hf with rfl | hf
          · exact h.todo (u, v :: vs) (by simp) a (List.mem_cons_of_mem _ ha)
          · exact h.todo f (by simp [hf]) a ha
      done := fun a ha b hab => by
        rw [hline] at ha
        rcases h.done a ha b hab with hdone | ⟨f, hf, rfl, hb⟩
        · exact .inl (hexplored a b hdone)
        · rcases List.mem_append.mp hf with hf | hf
          · exact .inr ⟨f, List.mem_append_left _ hf, rfl, hb⟩
          · rcases List.mem_cons.mp hf with rfl | hf
            · -- only `v` is no longer kept
              rcases List.mem_cons.mp hb with rfl | hb
              · exact .inl (hexplored _ _ hv)
              · exact .inr ⟨(u, vs), by simp, rfl, hb⟩
            · exact .inr ⟨f, by simp [hf], rfl, hb⟩
      noted := fun a b hab => by rw [hline]; exact h.noted a b hab }

/-- Entering a number that no one has entered. -/
theorem enter {v : Nat} (h : Inv g stack s) (hsize : v < g.size) (hunseen : s.mark v = .unseen)
    (hpath : ∀ u ∈ (stack.map Prod.fst).head?, g.Arrow u v) :
    Inv g ((v, g.next v) :: stack) (s.enter v) := by
  have hmark : ∀ u, (s.enter v).mark u = if u = v then .active else s.mark u :=
    mark_enter (h.size.symm ▸ hsize)
  have hnew : v ∉ s.line stack := fun hmem => (h.mem_line_iff v).mp hmem hunseen
  have hline : (s.enter v).line ((v, g.next v) :: stack) =
      (stack.map Prod.fst).reverse ++ v :: s.order := by
    rw [line, List.map_cons, List.reverse_cons, List.append_assoc]
    rfl
  -- the line grows by `v`, so what stood before something in it still does
  have hgrows := s.line_enter v (g.next v) stack
  exact
    { size := by rw [← h.size]; exact Array.size_setIfInBounds
      nodup := by
        rw [hline, List.nodup_middle]
        exact List.nodup_cons.mpr ⟨hnew, h.nodup⟩
      active := fun u => by
        rw [hmark, List.map_cons, List.mem_cons, ← h.active]
        by_cases huv : u = v
        · simp [huv]
        · simp [huv]
      left := fun u => by
        rw [hmark]
        refine Iff.trans ?_ (h.left u)
        by_cases huv : u = v
        · subst huv
          simp [hunseen]
        · simp [huv]
      path := by
        rw [List.map_cons, List.isChain_cons]
        exact ⟨hpath, h.path⟩
      todo := fun f hf => by
        rcases List.mem_cons.mp hf with rfl | hf
        · exact fun u hu => hu
        · exact h.todo f hf
      done := fun u hu w huw => by
        by_cases huv : u = v
        · -- the new frame holds all successors of `v`
          subst huv
          exact .inr ⟨_, List.mem_cons_self .., rfl, huw⟩
        · have hold : u ∈ s.line stack := by
            rw [hline] at hu
            unfold line
            simp only [List.mem_append, List.mem_cons, huv, false_or] at hu ⊢
            exact hu
          rcases h.done u hold w huw with (hclosing | hbefore) | ⟨f, hf, hfu, hw⟩
          · exact .inl (.inl hclosing)
          · exact .inl (.inr (hbefore.mono hgrows))
          · exact .inr ⟨f, List.mem_cons_of_mem _ hf, hfu, hw⟩
      noted := fun u w huw => by
        obtain ⟨harrow, hreaches, hbefore⟩ := h.noted u w huw
        exact ⟨harrow, hreaches, hbefore.imp_right (·.mono hgrows)⟩ }

/-- Going on to a successor that no one has entered. -/
theorem descend {u v : Nat} {vs : List Nat} (h : Inv g ((u, v :: vs) :: stack) s)
    (hsize : v < g.size) (hunseen : s.mark v = .unseen) :
    Inv g ((v, g.next v) :: (u, vs) :: stack) (s.enter v) := by
  have harrow : g.Arrow u v := h.todo _ (List.mem_cons_self ..) v (List.mem_cons_self ..)
  have hentered : Inv g ((v, g.next v) :: (u, v :: vs) :: stack) (s.enter v) := by
    refine h.enter hsize hunseen fun w hw => ?_
    obtain rfl := Option.some.inj hw
    exact harrow
  -- now `v` stands behind `u` in the line
  refine look [(v, g.next v)] hentered (.inr ?_)
  rw [line, List.singleton_append, List.map_cons, List.reverse_cons, List.append_assoc]
  exact before_append (by simp) (List.mem_cons_self ..)

/-- Leaving a number all of whose successors have been looked at. -/
theorem leave {u : Nat} (h : Inv g ((u, []) :: stack) s) : Inv g stack (s.leave u) := by
  have hline : (s.leave u).line stack = s.line ((u, []) :: stack) := line_leave u []
  have htop : u ∈ s.line ((u, []) :: stack) := by simp [line]
  have hmark : ∀ v, (s.leave u).mark v = if v = u then .left else s.mark v :=
    mark_leave (h.size.symm ▸ h.lt_size htop)
  -- the line has `u` once, so no frame below is one of `u`
  have hfresh : u ∉ stack.map Prod.fst ∧ u ∉ s.order := by
    have hnodup := h.nodup
    rw [← hline, line, Search.leave, List.nodup_middle, List.nodup_cons, List.mem_append,
      List.mem_reverse] at hnodup
    exact not_or.mp hnodup.1
  exact
    { size := by rw [← h.size]; exact Array.size_setIfInBounds
      nodup := hline ▸ h.nodup
      active := fun v => by
        rw [hmark]
        by_cases hvu : v = u
        · subst hvu
          simpa using hfresh.1
        · rw [if_neg hvu, h.active, List.map_cons, List.mem_cons]
          simp [hvu]
      left := fun v => by
        rw [hmark, Search.leave, List.mem_cons, ← h.left]
        by_cases hvu : v = u
        · simp [hvu]
        · simp [hvu]
      path := by
        have hpath := h.path
        rw [List.map_cons, List.isChain_cons] at hpath
        exact hpath.2
      todo := fun f hf => h.todo f (List.mem_cons_of_mem _ hf)
      done := fun a ha b hab => by
        rw [hline] at ha
        rcases h.done a ha b hab with hdone | ⟨f, hf, rfl, hb⟩
        · rw [Explored, hline]
          exact .inl hdone
        · rcases List.mem_cons.mp hf with rfl | hf
          · cases hb
          · exact .inr ⟨f, hf, rfl, hb⟩
      noted := by rw [hline]; exact h.noted }

/-- Noting an edge to a number on the stack. -/
theorem note {u v : Nat} {vs : List Nat} (h : Inv g ((u, v :: vs) :: stack) s)
    (hactive : s.mark v = .active) :
    Inv g ((u, v :: vs) :: stack) { s with closing := (u, v) :: s.closing } := by
  have hv : v ∈ ((u, v :: vs) :: stack).map Prod.fst := (h.active v).mp hactive
  -- `u` is on top of the stack, so `v` is `u` or was entered before it
  have hbackward : u = v ∨ Before (s.line ((u, v :: vs) :: stack)) v u := by
    rw [List.map_cons] at hv
    rcases List.mem_cons.mp hv with rfl | hv
    · exact .inl rfl
    · right
      rw [line, List.map_cons, List.reverse_cons, List.append_assoc]
      exact before_append (List.mem_reverse.mpr hv)
        (List.mem_append_left _ (List.mem_singleton_self u))
  exact
    { size := h.size
      nodup := h.nodup
      active := h.active
      left := h.left
      path := h.path
      todo := h.todo
      done := fun a ha b hab =>
        (h.done a ha b hab).imp_left (·.imp_left (List.mem_cons_of_mem _))
      noted := fun a b hab => by
        rcases List.mem_cons.mp hab with heq | hab
        · obtain ⟨rfl, rfl⟩ := Prod.mk.inj heq
          exact ⟨h.todo _ (List.mem_cons_self ..) b (List.mem_cons_self ..),
            reaches_top h.path b hv, hbackward⟩
        · exact h.noted a b hab }

end Inv

/-! ## Runs -/

/-- How many steps the numbers take that have not been entered. -/
def ahead (g : Digraph) (s : Search) : Nat :=
  ((List.range g.size).map fun u =>
    if s.mark u = .unseen then 1 + (g.next u).length else 0).sum

/-- How many steps the numbers take that are on the stack. -/
def begun (stack : List (Nat × List Nat)) : Nat := (stack.map fun f => 1 + f.2.length).sum

/-- Sums that differ in one place. -/
theorem sum_range_update (f f' : Nat → Nat) {n v : Nat} (hv : v < n)
    (h : ∀ u, u ≠ v → f' u = f u) :
    ((List.range n).map f').sum + f v = ((List.range n).map f).sum + f' v := by
  induction n with
  | zero => cases hv
  | succ n ih =>
    rw [List.range_succ, List.map_append, List.map_append, List.sum_append, List.sum_append]
    simp only [List.map_cons, List.map_nil, List.sum_cons, List.sum_nil, Nat.add_zero]
    by_cases hvn : v = n
    · subst hvn
      have hbelow : (List.range v).map f' = (List.range v).map f :=
        List.map_congr_left fun u hu => h u (Nat.ne_of_lt (List.mem_range.mp hu))
      rw [hbelow]
      omega
    · have hlast : f' n = f n := h n fun heq => hvn heq.symm
      have := ih (by omega)
      omega

/-- Entering a number takes its steps from those ahead. -/
theorem ahead_enter {v : Nat} (h : Inv g stack s) (hsize : v < g.size)
    (hunseen : s.mark v = .unseen) :
    ahead g (s.enter v) + (1 + (g.next v).length) = ahead g s := by
  have hmark : ∀ u, (s.enter v).mark u = if u = v then .active else s.mark u :=
    mark_enter (h.size.symm ▸ hsize)
  have hsum := sum_range_update
    (fun u => if s.mark u = .unseen then 1 + (g.next u).length else 0)
    (fun u => if (s.enter v).mark u = .unseen then 1 + (g.next u).length else 0)
    hsize fun u hu => by rw [hmark, if_neg hu]
  rw [hmark, if_pos rfl, if_pos hunseen, if_neg (by decide)] at hsum
  exact hsum

/-- There is never more ahead than all numbers and edges, so there is fuel enough. -/
theorem ahead_le (g : Digraph) (s : Search) : ahead g s ≤ g.size + g.edges.length := by
  have hall : ((List.range g.size).map fun u => 1 + (g.next u).length).sum =
      g.size + g.edges.length := by
    unfold edges
    rw [List.length_flatMap]
    simp only [List.length_map]
    rw [List.sum_map_add]
    simp
  rw [← hall, ahead]
  refine List.sum_le_sum fun u _ => ?_
  split
  · exact Nat.le_refl _
  · exact Nat.zero_le _

/-- Leaving a number changes nothing of what is ahead, since it was entered. -/
theorem ahead_leave {u : Nat} {vs : List Nat} (h : Inv g ((u, vs) :: stack) s) :
    ahead g (s.leave u) = ahead g s := by
  have hmark : ∀ v, (s.leave u).mark v = if v = u then .left else s.mark v :=
    mark_leave (h.size.symm ▸ h.lt_size (by simp [line]))
  have hactive : s.mark u = .active := (h.active u).mpr (by simp)
  unfold ahead
  refine congrArg List.sum (List.map_congr_left fun v _ => ?_)
  rw [hmark]
  by_cases hvu : v = u
  · rw [if_pos hvu, hvu, hactive]
    rfl
  · rw [if_neg hvu]

/-- A search with enough fuel ends with an empty stack, and keeps the line. -/
theorem searchOn_spec (hg : g.InRange) (fuel : Nat) (stack : List (Nat × List Nat))
    (s : Search) (h : Inv g stack s) (hfuel : begun stack + ahead g s ≤ fuel) :
    Inv g [] (searchOn g fuel stack s) ∧ s.line stack <+ (searchOn g fuel stack s).order := by
  fun_induction searchOn g fuel stack s with
  | case1 stack s =>
    -- every frame takes a step, so without fuel there is none
    cases stack with
    | nil => exact ⟨h, List.Sublist.refl _⟩
    | cons f stack => simp only [begun, List.map_cons, List.sum_cons] at hfuel; omega
  | case2 fuel s => exact ⟨h, List.Sublist.refl _⟩
  | case3 fuel u stack s ih =>
    have hless : begun stack + ahead g (s.leave u) ≤ fuel := by
      rw [ahead_leave h]
      simp only [begun, List.map_cons, List.sum_cons] at hfuel ⊢
      omega
    have hrest := ih h.leave hless
    rw [line_leave u []] at hrest
    exact hrest
  | case4 fuel u v vs stack s hunseen ih =>
    have hsize : v < g.size := hg u v (h.todo _ (List.mem_cons_self ..) v (List.mem_cons_self ..))
    have hless : begun ((v, g.next v) :: (u, vs) :: stack) + ahead g (s.enter v) ≤ fuel := by
      have hahead := ahead_enter h hsize hunseen
      simp only [begun, List.map_cons, List.sum_cons, List.length_cons] at hfuel ⊢
      omega
    obtain ⟨hinv, hline⟩ := ih (h.descend hsize hunseen) hless
    exact ⟨hinv, (line_enter s v _ ((u, vs) :: stack)).trans hline⟩
  | case5 fuel u v vs stack s hactive ih =>
    have hless : begun ((u, vs) :: stack) +
        ahead g { s with closing := (u, v) :: s.closing } ≤ fuel := by
      have hahead : ahead g { s with closing := (u, v) :: s.closing } = ahead g s := rfl
      simp only [begun, List.map_cons, List.sum_cons, List.length_cons] at hfuel ⊢
      omega
    have hnoted := Inv.look [] (h.note hactive) (.inl (List.mem_cons_self ..))
    exact ih hnoted hless
  | case6 fuel u v vs stack s hleft ih =>
    have hless : begun ((u, vs) :: stack) + ahead g s ≤ fuel := by
      simp only [begun, List.map_cons, List.sum_cons, List.length_cons] at hfuel ⊢
      omega
    have hv : v ∈ s.order := (h.left v).mp hleft
    have hexplored : s.Explored ((u, v :: vs) :: stack) u v :=
      .inr (before_append (by simp) hv)
    exact ih (Inv.look [] h hexplored) hless

/-- A search from a number keeps the invariant, comes back to an empty stack, and leaves that
number in the order. -/
theorem searchFrom_spec (hg : g.InRange) {u : Nat} (hu : u < g.size) (h : Inv g [] s) :
    Inv g [] (searchFrom g g.searchFuel s u) ∧
      s.order <+ (searchFrom g g.searchFuel s u).order ∧
      u ∈ (searchFrom g g.searchFuel s u).order := by
  have hseen : s.mark u ≠ .unseen → u ∈ s.order := fun hmark => (h.mem_line_iff u).mpr hmark
  unfold searchFrom
  split
  · next hunseen =>
    have hfuel : begun [(u, g.next u)] + ahead g (s.enter u) ≤ g.searchFuel := by
      have hahead := ahead_enter h hu hunseen
      have htotal := ahead_le g s
      unfold searchFuel
      simp only [begun, List.map_cons, List.map_nil, List.sum_cons, List.sum_nil]
      omega
    obtain ⟨hinv, hline⟩ := searchOn_spec hg _ _ _ (h.enter hu hunseen nofun) hfuel
    exact ⟨hinv, (line_enter s u _ []).trans hline, hline.subset (List.mem_cons_self ..)⟩
  · next hmark => exact ⟨h, List.Sublist.refl _, hseen hmark⟩

/-- Searches from several numbers keep the invariant and leave all of them in the order. The
induction is on these numbers. -/
theorem foldl_searchFrom_spec (hg : g.InRange) :
    ∀ (us : List Nat) (s : Search), (∀ u ∈ us, u < g.size) → Inv g [] s →
      Inv g [] (us.foldl (searchFrom g g.searchFuel) s) ∧
      s.order <+ (us.foldl (searchFrom g g.searchFuel) s).order ∧
      ∀ u ∈ us, u ∈ (us.foldl (searchFrom g g.searchFuel) s).order := by
  intro us
  induction us with
  | nil => intro s _ h; exact ⟨h, List.Sublist.refl _, fun u hu => absurd hu List.not_mem_nil⟩
  | cons u us ih =>
    intro s hus h
    obtain ⟨hu, hrest⟩ := List.forall_mem_cons.mp hus
    obtain ⟨hinv, horder, hmem⟩ := searchFrom_spec hg hu h
    obtain ⟨hinv', horder', hmem'⟩ := ih _ hrest hinv
    refine ⟨hinv', horder.trans horder', fun w hw => ?_⟩
    rcases List.mem_cons.mp hw with rfl | hw
    · exact horder'.subset hmem
    · exact hmem' w hw

/-- The invariant holds before anything is entered. -/
theorem inv_start (g : Digraph) : Inv g [] ⟨Array.replicate g.size .unseen, [], []⟩ := by
  have hmark : ∀ u, (⟨Array.replicate g.size .unseen, [], []⟩ : Search).mark u = .unseen := by
    intro u
    rw [mark, Array.getD_eq_getD_getElem?, Array.getElem?_replicate]
    split <;> rfl
  exact
    { size := Array.size_replicate
      nodup := List.nodup_nil
      active := fun u => by rw [hmark]; simp
      left := fun u => by rw [hmark]; simp
      path := .nil
      todo := fun f hf => absurd hf List.not_mem_nil
      done := fun u hu => absurd hu List.not_mem_nil
      noted := fun u v huv => absurd huv List.not_mem_nil }

/-- The search leaves every number once, and the invariant holds at its end. -/
theorem search_spec (hg : g.InRange) :
    Inv g [] g.search ∧ g.search.order.Perm (List.range g.size) := by
  obtain ⟨hinv, -, hmem⟩ := foldl_searchFrom_spec hg (List.range g.size) _
    (fun u hu => List.mem_range.mp hu) (inv_start g)
  refine ⟨hinv, (List.perm_ext_iff_of_nodup hinv.nodup List.nodup_range).mpr fun u => ?_⟩
  exact ⟨fun hu => List.mem_range.mpr (hinv.lt_size hu), hmem u⟩

end Search

/-! ## Orders in which all edges go forward -/

/-- An order of the numbers of a graph in which all edges go forward. -/
structure Sorts (g : Digraph) (order : List Nat) : Prop where
  perm : order.Perm (List.range g.size)
  forward : ∀ u v, g.Arrow u v → Before order u v

namespace Sorts

variable {g : Digraph} {order : List Nat}

/-- An order in which a graph is sorted repeats no number. -/
theorem nodup (h : g.Sorts order) : order.Nodup := h.perm.nodup_iff.mpr List.nodup_range

/-- The index of a number is lower than those of its successors. -/
theorem idxOf_lt (h : g.Sorts order) {u v : Nat} (huv : g.Arrow u v) :
    order.idxOf u < order.idxOf v :=
  (h.forward u v huv).idxOf_lt h.nodup

/-- Every way goes forward, so none leads back. -/
theorem acyclic (h : g.Sorts order) : g.Acyclic := by
  have hway : ∀ u v, Relation.TransGen g.Arrow u v → order.idxOf u < order.idxOf v := by
    intro u v huv
    induction huv with
    | single huv => exact h.idxOf_lt huv
    | tail _ hvw ih => exact Nat.lt_trans ih (h.idxOf_lt hvw)
  exact fun u hu => Nat.lt_irrefl _ (hway u u hu)

end Sorts

/-- What is asked of a function that sorts graphs: what it gives for a graph is an order
in which all edges go forward, and it gives one for every graph without cycles. -/
structure TopologicalSort (sort : Digraph → Option (List Nat)) : Prop where
  sound : ∀ g order, g.InRange → sort g = some order → g.Sorts order
  complete : ∀ g, g.InRange → g.Acyclic → (sort g).isSome = true

/-! ## What the search finds -/

variable {g : Digraph}

/-- An edge goes forward in the order of the search or is noted. -/
theorem arrow_explored (hg : g.InRange) {u v : Nat} (h : g.Arrow u v) :
    (u, v) ∈ g.search.closing ∨ Before g.search.order u v := by
  obtain ⟨hinv, hperm⟩ := Search.search_spec hg
  have hu : u ∈ g.search.order := hperm.mem_iff.mpr (List.mem_range.mpr h.source_lt)
  rcases hinv.done u hu v h with hdone | ⟨f, hf, -⟩
  · exact hdone
  · exact absurd hf List.not_mem_nil

/-- An edge that is noted lies on a cycle. -/
theorem reaches_of_closing (hg : g.InRange) {u v : Nat} (h : (u, v) ∈ g.search.closing) :
    g.Arrow u v ∧ Relation.ReflTransGen g.Arrow v u := by
  obtain ⟨harrow, hreaches, -⟩ := (Search.search_spec hg).1.noted u v h
  exact ⟨harrow, hreaches⟩

/-- An edge that is noted goes backward in the order of the search. -/
theorem before_of_closing (hg : g.InRange) (hloop : g.Loopless) {u v : Nat}
    (h : (u, v) ∈ g.search.closing) : Before g.search.order v u := by
  obtain ⟨harrow, -, rfl | hbefore⟩ := (Search.search_spec hg).1.noted u v h
  · exact absurd harrow (hloop u)
  · exact hbefore

/-- If no edge was noted, the search has sorted the graph. -/
theorem sorts_of_nothing_noted (hg : g.InRange) (h : g.search.closing = []) :
    g.Sorts g.search.order where
  perm := (Search.search_spec hg).2
  forward := fun u v huv => by
    rcases arrow_explored hg huv with hclosing | hbefore
    · rw [h] at hclosing
      cases hclosing
    · exact hbefore

/-- The search sorts the graphs without cycles and finds a cycle in all others. -/
theorem sorted?_sorts : TopologicalSort sorted? where
  sound := fun g order hg h => by
    unfold sorted? at h
    dsimp only at h
    split at h
    · next hnone =>
      obtain rfl := Option.some.inj h
      exact sorts_of_nothing_noted hg (List.isEmpty_iff.mp hnone)
    · cases h
  complete := fun g hg hacyclic => by
    unfold sorted?
    dsimp only
    split
    · rfl
    · next hsome =>
      have hclosing : g.search.closing ≠ [] := fun h => hsome (List.isEmpty_iff.mpr h)
      obtain ⟨⟨u, v⟩, hmem⟩ := List.exists_mem_of_ne_nil _ hclosing
      obtain ⟨harrow, hreaches⟩ := reaches_of_closing hg hmem
      exact absurd (Relation.TransGen.head' harrow hreaches) (hacyclic u)

/-! ## The graph without cycles -/

theorem size_unlooped : g.unlooped.size = g.size := by
  unfold unlooped
  dsimp only
  split
  · rfl
  · exact size_ofEdges _ _

/-- An edge of the graph without cycles is one of the graph that was not noted, or one
that was noted, turned around. -/
theorem arrow_unlooped_iff (hg : g.InRange) {u v : Nat} : g.unlooped.Arrow u v ↔
    (g.Arrow u v ∧ (u, v) ∉ g.search.closing) ∨ (g.Arrow v u ∧ (v, u) ∈ g.search.closing) := by
  unfold unlooped
  dsimp only
  split
  · next hnone =>
    rw [List.isEmpty_iff.mp hnone]
    simp
  · rw [turned, arrow_ofEdges_iff, List.mem_map]
    constructor
    · rintro ⟨⟨⟨a, b⟩, hmem, heq⟩, -⟩
      have harrow := mem_edges_iff.mp hmem
      dsimp only at heq
      split at heq
      · next hclosing =>
        obtain ⟨rfl, rfl⟩ := Prod.mk.inj heq
        exact .inr ⟨harrow, List.contains_iff_mem.mp hclosing⟩
      · next hother =>
        obtain ⟨rfl, rfl⟩ := Prod.mk.inj heq
        exact .inl ⟨harrow, fun hmem => hother (List.contains_iff_mem.mpr hmem)⟩
    · rintro (⟨harrow, hother⟩ | ⟨harrow, hclosing⟩)
      · refine ⟨⟨(u, v), mem_edges_iff.mpr harrow, ?_⟩, harrow.source_lt⟩
        exact if_neg fun h => hother (List.contains_iff_mem.mp h)
      · refine ⟨⟨(v, u), mem_edges_iff.mpr harrow, ?_⟩, hg v u harrow⟩
        exact if_pos (List.contains_iff_mem.mpr hclosing)

/-- Edges that are turned around are between the same numbers. -/
theorem unlooped_inRange (hg : g.InRange) : g.unlooped.InRange := by
  intro u v huv
  rw [size_unlooped]
  rcases (arrow_unlooped_iff hg).mp huv with ⟨harrow, -⟩ | ⟨harrow, -⟩
  · exact hg u v harrow
  · exact harrow.source_lt

/-- **Turning the noted edges around leaves only edges that go forward.** -/
theorem sorts_unlooped (hg : g.InRange) (hloop : g.Loopless) :
    g.unlooped.Sorts g.search.order where
  perm := by rw [size_unlooped]; exact (Search.search_spec hg).2
  forward := fun u v huv => by
    rcases (arrow_unlooped_iff hg).mp huv with ⟨harrow, hother⟩ | ⟨-, hclosing⟩
    · exact (arrow_explored hg harrow).resolve_left hother
    · exact before_of_closing hg hloop hclosing

/-- **No cycle is left** when the noted edges are turned around. -/
theorem unlooped_acyclic (hg : g.InRange) (hloop : g.Loopless) : g.unlooped.Acyclic :=
  (sorts_unlooped hg hloop).acyclic

end Digraph

end CallAtlas
