import Mathlib.Data.List.Perm.Subperm
import CallAtlas.Proofs.GridCells
import CallAtlas.Proofs.Placement

/-!
# Reading a grid

The cells of a grid are told in the order of its members, and they follow one another row by
row. So reading the nodes from the top down, and from the left to the right within a row,
gives them in the order that they were sorted by (`key_lt_iff_reading_lt`). In a row nodes
have different columns, and there is only room for as many as there are columns
(`countP_row_le`).

Each header stands for one group. As the sections of a grid are stacked, it is above the nodes
of its group and of later groups, and below those of earlier groups (`heads_section`).
Together with `Mesh.Behind` for the nodes among themselves this holds all boxes apart
(`Layout.nodes_in_grid`).
-/

namespace CallAtlas

/-- The group in which a grid shows a node. -/
def Node.group {α : Type} (n : Node α) : NodeGroup := .ofFunction n.function

namespace Grid

open CallAtlas.Measure

/-! ## Members -/

/-- The member that a node with an index is. -/
def memberOf {α : Type} (n : Node α) (i : Nat) : Member := ⟨n.group, n.label, i⟩

section Members

variable {α : Type} {ns : List (Node α)}

/-- The members of a grid are its nodes, with their indices. -/
theorem mem_members_iff {a : Member} :
    a ∈ members ns ↔ ∃ n, ns[a.index]? = some n ∧ a = memberOf n a.index := by
  unfold members
  rw [List.mem_mergeSort, List.mem_map]
  constructor
  · rintro ⟨⟨n, i⟩, hn, rfl⟩
    exact ⟨n, List.mem_zipIdx_iff_getElem?.mp hn, rfl⟩
  · rintro ⟨n, hn, ha⟩
    exact ⟨(n, a.index), List.mem_zipIdx_iff_getElem?.mpr hn, ha.symm⟩

/-- Each node is a member once. -/
theorem members_indices (ns : List (Node α)) :
    ((members ns).map Member.index).Perm (List.range ns.length) := by
  unfold members
  refine ((List.mergeSort_perm _ _).map _).trans (.of_eq ?_)
  rw [List.map_map, List.range_eq_range', ← List.zipIdx_map_snd 0 ns]
  rfl

/-- Each member comes strictly before all members behind it. -/
theorem members_increasing (ns : List (Node α)) :
    (members ns).Pairwise fun a b => a.key < b.key := by
  have hindices : (members ns).Pairwise fun a b => a.index ≠ b.index :=
    List.pairwise_map.mp ((members_indices ns).nodup_iff.mpr List.nodup_range)
  refine ((members_sorted ns).and hindices).imp fun {a b} hab => ?_
  refine lt_of_le_of_ne hab.1 fun heq => hab.2 ?_
  exact congrArg (fun k => (ofLex (ofLex k).2).2) heq

end Members

/-! ## Groups -/

/-- Two members are in one group. -/
def SameGroup (a b : Member) : Prop := a.group = b.group

instance : Trans SameGroup SameGroup SameGroup := ⟨Eq.trans⟩

section Groups

variable {ms xs : List Member}

/-- No group is empty. -/
theorem ne_nil_of_mem_groups (h : xs ∈ groups ms) : xs ≠ [] := List.ne_nil_of_mem_splitBy h

/-- The groups are the members one after the other. -/
theorem flatten_groups (ms : List Member) : (groups ms).flatten = ms := List.flatten_splitBy _ _

theorem group_of_mem (h : xs ∈ groups ms) {a : Member} (ha : a ∈ xs) :
    a.group = commonGroup xs := by
  have hchain : xs.IsChain SameGroup :=
    (List.isChain_of_mem_splitBy h).imp fun a b hab => beq_iff_eq.mp hab
  cases xs with
  | nil => cases ha
  | cons first others =>
    rcases List.mem_cons.mp ha with rfl | ha
    · rfl
    · exact ((List.pairwise_cons.mp hchain.pairwise).1 a ha).symm

/-- Groups are in the order of their places. -/
theorem place_lt_of_before {ys : List Member} (h : Before xs ys) :
    (commonGroup xs).place < (commonGroup ys).place := by
  obtain ⟨hx, hy, hlt⟩ := h
  cases xs with
  | nil => exact absurd rfl hx
  | cons a xs =>
    cases ys with
    | nil => exact absurd rfl hy
    | cons b ys => exact hlt

variable {α : Type} {ns : List (Node α)}

/-- The groups are those of the nodes. -/
theorem mem_group_iff {g : NodeGroup} :
    g ∈ (groups (members ns)).map commonGroup ↔ ∃ n ∈ ns, n.group = g := by
  rw [List.mem_map]
  constructor
  · rintro ⟨xs, hxs, rfl⟩
    obtain ⟨a, ha⟩ := List.exists_mem_of_ne_nil xs (ne_nil_of_mem_groups hxs)
    have hmember : a ∈ members ns := by
      rw [← flatten_groups (members ns)]
      exact List.mem_flatten.mpr ⟨xs, hxs, ha⟩
    obtain ⟨n, hn, hgroup⟩ := mem_members_iff.mp hmember
    refine ⟨n, List.mem_of_getElem? hn, ?_⟩
    rw [← group_of_mem hxs ha, hgroup]
    rfl
  · rintro ⟨n, hn, rfl⟩
    obtain ⟨i, hi⟩ := List.mem_iff_getElem?.mp hn
    have hmember : memberOf n i ∈ (groups (members ns)).flatten := by
      rw [flatten_groups]
      exact mem_members_iff.mpr ⟨n, hi, rfl⟩
    obtain ⟨xs, hxs, hmem⟩ := List.mem_flatten.mp hmember
    exact ⟨xs, hxs, (group_of_mem hxs hmem).symm⟩

/-- A group has as many members as there are nodes of it. -/
theorem length_group {xs : List Member} (h : xs ∈ groups (members ns)) :
    xs.length = ns.countP fun n => n.group == commonGroup xs := by
  have hnodes : (members ns).countP (fun a => a.group == commonGroup xs) =
      ns.countP fun n => n.group == commonGroup xs := by
    unfold members
    rw [(List.mergeSort_perm _ _).countP_eq, List.countP_map]
    conv_rhs => rw [← List.zipIdx_map_fst 0 ns, List.countP_map]
    rfl
  -- the groups before and behind this one have other places
  obtain ⟨front, back, hsplit⟩ := List.append_of_mem h
  have hbefore := groups_increasing ns
  have hmem : ∀ ys ∈ front ++ back, ys ∈ groups (members ns) := fun ys hys => by
    rw [hsplit, List.mem_append, List.mem_cons]
    exact (List.mem_append.mp hys).imp_right .inr
  rw [hsplit] at hbefore
  have hother : ∀ ys ∈ front ++ back, (commonGroup ys).place ≠ (commonGroup xs).place := by
    obtain ⟨-, hback, hfront⟩ := List.pairwise_append.mp hbefore
    intro ys hys
    rcases List.mem_append.mp hys with hys | hys
    · exact Nat.ne_of_lt (place_lt_of_before (hfront ys hys xs (List.mem_cons_self ..)))
    · exact Nat.ne_of_gt (place_lt_of_before ((List.pairwise_cons.mp hback).1 ys hys))
  have hnone : ∀ yss : List (List Member), (∀ ys ∈ yss, ys ∈ front ++ back) →
      yss.flatten.countP (fun a => a.group == commonGroup xs) = 0 := by
    intro yss hyss
    rw [List.countP_eq_zero]
    intro a ha heq
    obtain ⟨ys, hys, ha⟩ := List.mem_flatten.mp ha
    refine hother ys (hyss ys hys) (congrArg NodeGroup.place ?_)
    rw [← group_of_mem (hmem ys (hyss ys hys)) ha]
    exact beq_iff_eq.mp heq
  rw [← hnodes, ← flatten_groups (members ns), hsplit, List.flatten_append, List.flatten_cons,
    List.countP_append, List.countP_append, hnone front fun _ => List.mem_append_left _,
    hnone back fun _ => List.mem_append_right _, Nat.zero_add, Nat.add_zero]
  exact (List.countP_eq_length.mpr fun a ha => beq_iff_eq.mpr (group_of_mem h ha)).symm

end Groups

/-! ## The mesh of some nodes -/

variable {K : Type} [Field K] [LinearOrder K] {s : LayoutSettings K} {ns : List (Node K)}

/-- Nodes for a grid: all of them have a size, and gaps are not negative. -/
structure Fit (s : LayoutSettings K) (ns : List (Node K)) : Prop where
  nonempty : ns ≠ []
  width : ∀ n ∈ ns, 0 < (NodeSize.current s n).width
  height : ∀ n ∈ ns, 0 < (NodeSize.current s n).height
  nodeGap : 0 ≤ s.nodeGap
  rankGap : 0 ≤ s.rankGap

variable [IsStrictOrderedRing K]

/-- The cells hold every node. -/
theorem size_le_pitch (h : 0 ≤ s.nodeGap) {n : Node K} (hn : n ∈ ns) :
    (NodeSize.current s n).width ≤ (Mesh.ofNodes s ns).pitchX ∧
      (NodeSize.current s n).height ≤ (Mesh.ofNodes s ns).pitchY := by
  have hsize := List.mem_map_of_mem (f := NodeSize.current s) hn
  exact ⟨le_add_of_le_of_nonneg (le_largest (List.mem_map_of_mem hsize)) h,
    le_add_of_le_of_nonneg (le_largest (List.mem_map_of_mem hsize)) h⟩

/-- So the cells of a mesh have room. -/
theorem Fit.roomy (h : Fit s ns) : (Mesh.ofNodes s ns).Roomy := by
  obtain ⟨n, hn⟩ := List.exists_mem_of_ne_nil ns h.nonempty
  obtain ⟨hwidth, hheight⟩ := size_le_pitch h.nodeGap hn
  exact {
    columns := lt_of_lt_of_le Nat.one_pos (le_max_right _ _)
    pitchX := lt_of_lt_of_le (h.width n hn) hwidth
    pitchY := lt_of_lt_of_le (h.height n hn) hheight
    nodeGap := h.nodeGap
    rankGap := h.rankGap }

/-! ## Placed nodes -/

/-- Each node with its place, group by group. -/
def placements (s : LayoutSettings K) (ns : List (Node K)) : List (Nat × Position K) :=
  (sectionsOf s ns).flatMap Section.cells

/-- The nodes in their places. -/
def placed (s : LayoutSettings K) (ns : List (Node K)) : List (Node K) :=
  Layout.moved ns (positions ns.length (sectionsOf s ns))

omit [IsStrictOrderedRing K] in
/-- There is a section for each group, in the same order. -/
theorem sectionsOf_shows (s : LayoutSettings K) (ns : List (Node K)) :
    List.Forall₂ (Shows (Mesh.ofNodes s ns)) (groups (members ns)) (sectionsOf s ns) :=
  sections_shows fun _ hxs => ne_nil_of_mem_groups hxs

omit [IsStrictOrderedRing K] in
/-- Places are told in the order of the members. -/
theorem placements_indices (s : LayoutSettings K) (ns : List (Node K)) :
    (placements s ns).map Prod.fst = (members ns).map Member.index := by
  have hall : ∀ {gs : List (List Member)} {ts : List (Section K)},
      List.Forall₂ (Shows (Mesh.ofNodes s ns)) gs ts →
        (ts.flatMap Section.cells).map Prod.fst = gs.flatten.map Member.index := by
    intro gs ts h
    induction h with
    | nil => rfl
    | cons h _ ih =>
      rw [List.flatMap_cons, List.map_append, ih, h.indices, List.flatten_cons, List.map_append]
  rw [placements, hall (sectionsOf_shows s ns), flatten_groups]

omit [IsStrictOrderedRing K] in
theorem placements_perm (s : LayoutSettings K) (ns : List (Node K)) :
    ((placements s ns).map Prod.fst).Perm (List.range ns.length) := by
  rw [placements_indices]
  exact members_indices ns

omit [IsStrictOrderedRing K] in
/-- A node is where it has been placed. -/
theorem placed_spec {i : Nat} {a : Node K} (h : (placed s ns)[i]? = some a) :
    (i, a.position) ∈ placements s ns ∧ ∃ n, ns[i]? = some n ∧ a.group = n.group ∧
      memberOf a i = memberOf n i ∧ NodeSize.current s a = NodeSize.current s n := by
  obtain ⟨n, hn, hplaced, ha⟩ := Layout.moved_of_placed (placements_perm s ns) h
  refine ⟨hplaced, n, hn, ?_⟩
  rw [ha]
  exact ⟨rfl, rfl, rfl⟩

/-- The first node comes before the second one in the list of members and in the mesh. -/
def Precedes (m : Mesh K) (ns : List (Node K)) (c d : Nat × Position K) : Prop :=
  (∀ n n', ns[c.1]? = some n → ns[d.1]? = some n' → (memberOf n c.1).key < (memberOf n' d.1).key) ∧
    m.Behind c.2 d.2

/-- **Nodes are placed in order**: of two of them the first one comes before the second one as a
member and in the mesh. -/
theorem placements_pairwise (h : Fit s ns) :
    (placements s ns).Pairwise (Precedes (Mesh.ofNodes s ns) ns) := by
  have hkeys : ((members ns).map Member.index).Pairwise fun i j => ∀ n n', ns[i]? = some n →
      ns[j]? = some n' → (memberOf n i).key < (memberOf n' j).key := by
    refine List.pairwise_map.mpr ((members_increasing ns).imp_of_mem ?_)
    intro a b ha hb hab n n' hn hn'
    obtain ⟨k, hk, hak⟩ := mem_members_iff.mp ha
    obtain ⟨k', hk', hbk⟩ := mem_members_iff.mp hb
    obtain rfl := Option.some.inj (hk.symm.trans hn)
    obtain rfl := Option.some.inj (hk'.symm.trans hn')
    rwa [← hak, ← hbk]
  rw [← placements_indices s ns] at hkeys
  exact (List.pairwise_map.mp hkeys).and
    (sections_cells h.roomy.proper fun _ hxs => ne_nil_of_mem_groups hxs)

/-- Of two nodes one comes before the other, by its key and in the mesh. -/
theorem apart (h : Fit s ns) {i j : Nat} {a b : Node K} (ha : (placed s ns)[i]? = some a)
    (hb : (placed s ns)[j]? = some b) (hne : i ≠ j) :
    ((memberOf a i).key < (memberOf b j).key ∧ (Mesh.ofNodes s ns).Behind a.position b.position) ∨
      ((memberOf b j).key < (memberOf a i).key ∧
        (Mesh.ofNodes s ns).Behind b.position a.position) := by
  obtain ⟨hc, n, hn, -, hkey, -⟩ := placed_spec ha
  obtain ⟨hd, n', hn', -, hkey', -⟩ := placed_spec hb
  rw [hkey, hkey']
  refine (rel_or_rel (placements_pairwise h) hc hd fun heq => hne (congrArg Prod.fst heq)).imp ?_ ?_
  · exact fun hcd => ⟨hcd.1 n n' hn hn', hcd.2⟩
  · exact fun hdc => ⟨hdc.1 n' n hn' hn, hdc.2⟩

/-! ## Reading -/

/-- The order of reading: from the top down, and from the left to the right. -/
def reading (p : Position K) : K ×ₗ K := toLex (p.y, p.x)

/-- What comes behind something in the mesh is read later. -/
theorem Mesh.Behind.reading_lt {m : Mesh K} (hm : m.Roomy) {p q : Position K}
    (h : m.Behind p q) : reading p < reading q := by
  have hx := hm.pitchX
  have hy := hm.pitchY
  refine Prod.Lex.toLex_lt_toLex.mpr ?_
  rcases h with ⟨hrow, hcolumn⟩ | hbelow
  · exact .inr ⟨hrow, by linarith⟩
  · exact .inl (by linarith)

/-- **Reading a grid gives the nodes in the order that they were sorted by.** -/
theorem key_lt_iff_reading_lt (h : Fit s ns) {i j : Nat} {a b : Node K}
    (ha : (placed s ns)[i]? = some a) (hb : (placed s ns)[j]? = some b) :
    (memberOf a i).key < (memberOf b j).key ↔ reading a.position < reading b.position := by
  by_cases hij : i = j
  · subst hij
    obtain rfl := Option.some.inj (ha.symm.trans hb)
    simp only [lt_irrefl]
  · rcases apart h ha hb hij with ⟨hkey, hplace⟩ | ⟨hkey, hplace⟩
    · exact iff_of_true hkey (hplace.reading_lt h.roomy)
    · exact iff_of_false (lt_asymm hkey) (lt_asymm (hplace.reading_lt h.roomy))

/-- Of two nodes, one comes behind the other in the mesh. -/
theorem placed_pairwise (h : Fit s ns) : (placed s ns).Pairwise fun a b =>
    (Mesh.ofNodes s ns).Behind a.position b.position ∨
      (Mesh.ofNodes s ns).Behind b.position a.position := by
  refine List.pairwise_iff_getElem.mpr fun i j hi hj hij => ?_
  exact (apart h (List.getElem?_eq_getElem hi) (List.getElem?_eq_getElem hj)
    (Nat.ne_of_lt hij)).imp And.right And.right

/-- **A row holds no more nodes than there are columns.** -/
theorem countP_row_le (h : Fit s ns) (y : K) :
    (placed s ns).countP (fun a => decide (a.position.y = y)) ≤ (Mesh.ofNodes s ns).columns := by
  rw [List.countP_eq_length_filter]
  generalize hrow : (placed s ns).filter (fun a => decide (a.position.y = y)) = row
  have hmem : ∀ a ∈ row, a ∈ placed s ns ∧ a.position.y = y := fun a ha => by
    rw [← hrow] at ha
    exact ⟨(List.mem_filter.mp ha).1, of_decide_eq_true (List.mem_filter.mp ha).2⟩
  have hx := h.roomy.pitchX
  have hy := h.roomy.pitchY
  -- nodes of one row differ in their columns, since one comes behind the other
  have hnodup : (row.map fun a => a.position.x).Nodup := by
    have hrowwise := (placed_pairwise h).sublist (hrow ▸ List.filter_sublist : row.Sublist _)
    refine List.pairwise_map.mpr (hrowwise.imp_of_mem fun {a b} ha hb hab heq => ?_)
    have hya := (hmem a ha).2
    have hyb := (hmem b hb).2
    rcases hab with (⟨-, hlt⟩ | hlt) | (⟨-, hlt⟩ | hlt) <;> linarith
  have hcolumns : (row.map fun a => a.position.x) ⊆
      (List.range (Mesh.ofNodes s ns).columns).map
        fun k : Nat => (k : K) * (Mesh.ofNodes s ns).pitchX := by
    intro x hx
    obtain ⟨a, ha, rfl⟩ := List.mem_map.mp hx
    obtain ⟨i, hi⟩ := List.mem_iff_getElem?.mp (hmem a ha).1
    obtain ⟨t, ht, hc⟩ := List.mem_flatMap.mp (placed_spec hi).1
    obtain ⟨xs, -, hxs⟩ := exists_of_mem_right (sectionsOf_shows s ns) ht
    obtain ⟨-, -, k, hk, hcolumn⟩ := hxs.within h.roomy.proper hc
    exact List.mem_map.mpr ⟨k, List.mem_range.mpr hk, hcolumn.symm⟩
  calc row.length = (row.map fun a => a.position.x).length := (List.length_map _).symm
    _ ≤ _ := (hnodup.subperm hcolumns).length_le
    _ = (Mesh.ofNodes s ns).columns := (List.length_map _).trans List.length_range

/-! ## Headers -/

/-- The groups with their sections. -/
def stack (s : LayoutSettings K) (ns : List (Node K)) : List (List Member × Section K) :=
  (groups (members ns)).zip (sectionsOf s ns)

omit [IsStrictOrderedRing K] in
theorem stack_groups (s : LayoutSettings K) (ns : List (Node K)) :
    (stack s ns).map Prod.fst = groups (members ns) :=
  List.map_fst_zip (sectionsOf_shows s ns).length_eq.le

omit [IsStrictOrderedRing K] in
theorem stack_sections (s : LayoutSettings K) (ns : List (Node K)) :
    (stack s ns).map Prod.snd = sectionsOf s ns :=
  List.map_snd_zip (sectionsOf_shows s ns).length_eq.ge

omit [IsStrictOrderedRing K] in
/-- A group in the stack is with the section that shows it. -/
theorem mem_stack {x : List Member × Section K} (h : x ∈ stack s ns) :
    x.1 ∈ groups (members ns) ∧ Shows (Mesh.ofNodes s ns) x.1 x.2 := by
  refine ⟨?_, List.forall₂_zip (sectionsOf_shows s ns) h⟩
  rw [← stack_groups s ns]
  exact List.mem_map_of_mem h

/-- A group comes before another one, and so does its section. -/
def Stacked (m : Mesh K) (x y : List Member × Section K) : Prop :=
  (commonGroup x.1).place < (commonGroup y.1).place ∧ x.2.bottom m ≤ y.2.header.position.y

/-- The groups in the stack come one before the other, and so do their sections. -/
theorem stack_pairwise (h : Fit s ns) :
    (stack s ns).Pairwise (Stacked (Mesh.ofNodes s ns)) := by
  have hgroups := groups_increasing ns
  have hsections : (sectionsOf s ns).Pairwise fun t u =>
      t.bottom (Mesh.ofNodes s ns) ≤ u.header.position.y :=
    sections_stacked h.roomy.proper fun _ hxs => ne_nil_of_mem_groups hxs
  rw [← stack_groups s ns] at hgroups
  rw [← stack_sections s ns] at hsections
  exact ((List.pairwise_map.mp hgroups).imp place_lt_of_before).and (List.pairwise_map.mp hsections)

/-- Of two groups in the stack one comes before the other, unless they are the same. -/
theorem stack_cases (h : Fit s ns) {x y : List Member × Section K} (hx : x ∈ stack s ns)
    (hy : y ∈ stack s ns) : x = y ∨ Stacked (Mesh.ofNodes s ns) x y ∨
      Stacked (Mesh.ofNodes s ns) y x :=
  or_iff_not_imp_left.mpr (rel_or_rel (stack_pairwise h) hx hy)

omit [IsStrictOrderedRing K] in
/-- A node stands in the section of its group. -/
theorem exists_section {i : Nat} {a : Node K} (ha : (placed s ns)[i]? = some a) :
    ∃ x ∈ stack s ns, (i, a.position) ∈ x.2.cells ∧ a.group = commonGroup x.1 := by
  obtain ⟨hc, n, hn, hgroup, -, -⟩ := placed_spec ha
  obtain ⟨t, ht, hcell⟩ := List.mem_flatMap.mp hc
  rw [← stack_sections s ns] at ht
  obtain ⟨x, hx, rfl⟩ := List.mem_map.mp ht
  refine ⟨x, hx, hcell, ?_⟩
  obtain ⟨hxs, hshows⟩ := mem_stack hx
  have hindex : i ∈ x.1.map Member.index := by
    rw [← hshows.indices]
    exact List.mem_map_of_mem hcell
  obtain ⟨b, hb, rfl⟩ := List.mem_map.mp hindex
  obtain ⟨n', hn', hbn⟩ := mem_members_iff.mp
    (flatten_groups (members ns) ▸ List.mem_flatten.mpr ⟨x.1, hxs, hb⟩)
  obtain rfl := Option.some.inj (hn.symm.trans hn')
  rw [hgroup, ← group_of_mem hxs hb, hbn]
  rfl

/-- A node is the header of a group: it tells how many nodes the group has, and stands above
them and the nodes of later groups, and below those of earlier groups. -/
structure Heads (s : LayoutSettings K) (shown : List (Node K)) (g : NodeGroup) (h : Node K) :
    Prop where
  isHeader : h.isHeader = true
  id : h.id = headerId g
  label : h.label = g.title ++ " (" ++ toString (shown.countP fun a => a.group == g) ++ ")"
  above : ∀ a ∈ shown, g.place ≤ a.group.place → (h.box s).y + (h.box s).height ≤ (a.box s).y
  below : ∀ a ∈ shown, a.group.place < g.place → (a.box s).y + (a.box s).height ≤ (h.box s).y

omit [IsStrictOrderedRing K] in
theorem placed_unplaced (s : LayoutSettings K) (ns : List (Node K)) :
    (placed s ns).map Node.unplaced = ns.map Node.unplaced :=
  Layout.moved_unplaced (length_positions ns.length _)

omit [IsStrictOrderedRing K] in
theorem countP_placed (s : LayoutSettings K) (ns : List (Node K)) (g : NodeGroup) :
    (placed s ns).countP (fun a => a.group == g) = ns.countP fun n => n.group == g := by
  have hgroups := Layout.map_eq_of_unplaced (f := Node.group) (fun _ => rfl) (placed_unplaced s ns)
  have hcount := congrArg (List.countP (· == g)) hgroups
  rwa [List.countP_map, List.countP_map] at hcount

/-- The box of a node does not leave its cell. -/
theorem box_le_cell (h : 0 ≤ s.nodeGap) {a : Node K} (ha : a ∈ placed s ns) :
    (a.box s).x + (a.box s).width ≤ a.position.x + (Mesh.ofNodes s ns).pitchX ∧
      (a.box s).y + (a.box s).height ≤ a.position.y + (Mesh.ofNodes s ns).pitchY := by
  obtain ⟨i, hi⟩ := List.mem_iff_getElem?.mp ha
  obtain ⟨-, n, hn, -, -, hsize⟩ := placed_spec hi
  obtain ⟨hwidth, hheight⟩ := size_le_pitch h (List.mem_of_getElem? hn)
  rw [← hsize] at hwidth hheight
  exact ⟨add_le_add_right hwidth _, add_le_add_right hheight _⟩

omit [IsStrictOrderedRing K] in
/-- The box of a header stands where the header does and has its height. -/
theorem box_header {m : Mesh K} {x : List Member × Section K} (h : Shows m x.1 x.2) :
    (x.2.header.box s).y = x.2.header.position.y ∧ (x.2.header.box s).height = 36 := by
  refine ⟨rfl, ?_⟩
  rw [h.header, ← headerHeight_eq]
  rfl

/-- Where a node is beside a header depends on which of their groups comes first. -/
theorem below_or_above (h : Fit s ns) {x : List Member × Section K} (hx : x ∈ stack s ns)
    {a : Node K} (ha : a ∈ placed s ns) :
    (a.group.place < (commonGroup x.1).place ∧
      (a.box s).y + (a.box s).height ≤ x.2.header.position.y) ∨
    ((commonGroup x.1).place ≤ a.group.place ∧ x.2.header.position.y + 36 ≤ (a.box s).y) := by
  obtain ⟨i, hi⟩ := List.mem_iff_getElem?.mp ha
  obtain ⟨z, hz, hcell, hgroup⟩ := exists_section hi
  obtain ⟨htop, hbottom, -⟩ := (mem_stack hz).2.within h.roomy.proper hcell
  have htop : z.2.header.position.y + 36 ≤ (a.box s).y := htop
  have hheader := header_le_bottom h.roomy.proper x.2
  rw [hgroup]
  rcases stack_cases h hx hz with rfl | ⟨hlt, hle⟩ | ⟨hlt, hle⟩
  · exact .inr ⟨le_refl _, htop⟩
  · exact .inr ⟨Nat.le_of_lt hlt, by linarith⟩
  · exact .inl ⟨hlt, le_trans (box_le_cell h.nodeGap ha).2 (le_trans hbottom hle)⟩

/-- **A header heads its group**, above it and all later groups, and below all earlier ones. -/
theorem heads_section (h : Fit s ns) {x : List Member × Section K} (hx : x ∈ stack s ns) :
    Heads s (placed s ns) (commonGroup x.1) x.2.header := by
  obtain ⟨hxs, hshows⟩ := mem_stack hx
  obtain ⟨hy, hheight⟩ := box_header (s := s) hshows
  refine ⟨by rw [hshows.header]; rfl, by rw [hshows.header]; rfl, ?_, fun a ha hle => ?_,
    fun a ha hlt => ?_⟩
  · rw [hshows.header, countP_placed, ← length_group hxs]
    rfl
  · rw [hy, hheight]
    rcases below_or_above h hx ha with ⟨hlt, -⟩ | ⟨-, hbelow⟩
    · exact absurd hle (Nat.not_le_of_lt hlt)
    · exact hbelow
  · rw [hy]
    rcases below_or_above h hx ha with ⟨-, habove⟩ | ⟨hle, -⟩
    · exact habove
    · exact absurd hle (Nat.not_le_of_lt hlt)

/-- There is one header for each group, in the same order. -/
theorem headers_spec (h : Fit s ns) : List.Forall₂ (Heads s (placed s ns))
    ((groups (members ns)).map commonGroup) ((sectionsOf s ns).map Section.header) := by
  rw [List.forall₂_map_left_iff, List.forall₂_map_right_iff, List.forall₂_iff_zip]
  exact ⟨(sectionsOf_shows s ns).length_eq, fun hx => heads_section h hx⟩

omit [IsStrictOrderedRing K] in
/-- The headers count every node once. -/
theorem sum_counts (s : LayoutSettings K) (ns : List (Node K)) :
    (((groups (members ns)).map commonGroup).map fun g =>
      (placed s ns).countP fun a => a.group == g).sum = ns.length := by
  have hcount : ∀ xs ∈ groups (members ns),
      (placed s ns).countP (fun a => a.group == commonGroup xs) = xs.length := by
    intro xs hxs
    rw [countP_placed, ← length_group hxs]
  have hmembers : (members ns).length = ns.length := by
    rw [← List.length_map Member.index, (members_indices ns).length_eq, List.length_range]
  rw [List.map_map]
  refine (congrArg List.sum (List.map_congr_left hcount)).trans ?_
  rw [← List.length_flatten, flatten_groups, hmembers]

/-- **No two boxes of a grid overlap.** -/
theorem boxes_apart (h : Fit s ns) :
    (placed s ns ++ (sectionsOf s ns).map Section.header).Pairwise fun a b =>
      ¬(a.box s).Overlaps (b.box s) := by
  refine List.pairwise_append.mpr ⟨?_, ?_, fun a ha hd hhd => ?_⟩
  · -- two nodes: one is behind the other in the mesh, in its row or below
    have happart : ∀ {a b : Node K}, a ∈ placed s ns →
        (Mesh.ofNodes s ns).Behind a.position b.position → ¬(a.box s).Overlaps (b.box s) := by
      intro a b ha hab
      obtain ⟨hright, hbottom⟩ := box_le_cell h.nodeGap ha
      rcases hab with ⟨-, hcolumn⟩ | hrow
      · exact Box.not_overlaps_of_left (le_trans hright hcolumn)
      · exact Box.not_overlaps_of_above (le_trans hbottom hrow)
    refine (placed_pairwise h).imp_of_mem fun {a b} ha hb hab => ?_
    rcases hab with hab | hba
    · exact happart ha hab
    · exact fun hoverlaps => happart hb hba hoverlaps.symm
  · -- two headers: the section of the first ends above the second
    rw [← stack_sections s ns, List.map_map]
    refine List.pairwise_map.mpr ((stack_pairwise h).imp_of_mem fun {x z} hx _ hxz => ?_)
    obtain ⟨hy, hheight⟩ := box_header (s := s) (mem_stack hx).2
    refine Box.not_overlaps_of_above ?_
    show (x.2.header.box s).y + (x.2.header.box s).height ≤ z.2.header.position.y
    rw [hy, hheight]
    exact le_trans (header_le_bottom h.roomy.proper x.2) hxz.2
  · -- a node and a header: the places of their groups tell which one is above
    obtain ⟨g, -, hheads⟩ := exists_of_mem_right (headers_spec h) hhd
    rcases Nat.lt_or_ge a.group.place g.place with hlt | hle
    · exact Box.not_overlaps_of_above (hheads.below a ha hlt)
    · exact fun hoverlaps =>
        Box.not_overlaps_of_above (hheads.above a ha hle) hoverlaps.symm

end Grid

namespace Layout

open CallAtlas.Measure

variable {K : Type} [Field K] [LinearOrder K] [IsStrictOrderedRing K]

/-- Two or more nodes that have been given their sizes are fit for a grid if their widths are
positive and the gaps are not negative. -/
theorem grid_fit {s : LayoutSettings K} {ns : List (Node K)} (htwo : 2 ≤ ns.length)
    (hshown : ∀ n ∈ ns, n.isHeader = false)
    (hwidth : ∀ n ∈ ns, 0 < (NodeSize.ofNode s n).width) (hnode : 0 ≤ s.nodeGap)
    (hrank : 0 ≤ s.rankGap) : Grid.Fit s (ns.map (sized s)) where
  nonempty := by
    rw [Ne, List.map_eq_nil_iff, ← List.length_eq_zero_iff]
    omega
  width := fun n hn => by
    obtain ⟨m, hm, rfl⟩ := List.mem_map.mp hn
    exact hwidth m hm
  height := fun n hn => by
    obtain ⟨m, hm, rfl⟩ := List.mem_map.mp hn
    have hheight := (NodeSize.ofNode_height s (hshown m hm)).1
    exact lt_of_lt_of_le (by norm_num) hheight
  nodeGap := hnode
  rankGap := hrank

omit [IsStrictOrderedRing K] in
/-- A grid shows the nodes of functions in their places, and the headers behind them. -/
theorem nodes_of_grid (halfTurn : K) (cosine sine : K → K) {s : LayoutSettings K}
    {ns : List (Node K)} (es : List Edge) (hgrid : s.arrangement.getD .grid = .grid)
    (hcolumns : 1 ≤ s.columns) (htwo : 2 ≤ ns.length) (hmost : ns.length ≤ maxGridNodes)
    (hshown : ∀ n ∈ ns, n.isHeader = false) :
    @nodes K (.exact halfTurn cosine sine) s ns es = Grid.placed s (ns.map (sized s)) ++
      (Grid.sectionsOf s (ns.map (sized s))).map Grid.Section.header := by
  have harranged : arrangementFor s (ns.map (sized s)).length = .grid := by
    have hfew : (s.columns = 0 || maxGridNodes < (ns.map (sized s)).length) = false := by
      rw [List.length_map, Bool.or_eq_false_iff, decide_eq_false_iff_not, decide_eq_false_iff_not]
      omega
    rw [arrangementFor, hgrid]
    exact if_neg (Bool.eq_false_iff.mp hfew)
  rw [nodes_exact halfTurn cosine sine s es hshown htwo]
  unfold arranged
  rw [harranged]
  rfl

/-- **What a grid shows.** Behind the nodes there is one header for each group that has nodes,
in the order of the groups, with an id of its own and the number of its nodes. Reading the
nodes row by row gives them in the order of their groups, their labels and their places in the
graph, with each header above the nodes of its group and below those of all groups before it.
No row holds more nodes than there are columns, and no two boxes overlap. -/
theorem nodes_in_grid (halfTurn : K) (cosine sine : K → K) (s : LayoutSettings K)
    (ns : List (Node K)) (es : List Edge) (hgrid : s.arrangement.getD .grid = .grid)
    (hcolumns : 1 ≤ s.columns) (htwo : 2 ≤ ns.length) (hmost : ns.length ≤ maxGridNodes)
    (hshown : ∀ n ∈ ns, n.isHeader = false)
    (hwidth : ∀ n ∈ ns, 0 < (NodeSize.ofNode s n).width) (hnode : 0 ≤ s.nodeGap)
    (hrank : 0 ≤ s.rankGap) :
    ∃ shown gs headers,
      @nodes K (.exact halfTurn cosine sine) s ns es = shown ++ headers ∧
      shown.map Node.unplaced = ns.map Node.unplaced ∧
      gs.Pairwise (fun g h => g.place < h.place) ∧
      (∀ g, g ∈ gs ↔ ∃ n ∈ ns, n.group = g) ∧
      List.Forall₂ (Grid.Heads s shown) gs headers ∧
      (headers.map Node.id).Nodup ∧
      (gs.map fun g => shown.countP fun a => a.group == g).sum = ns.length ∧
      (∀ i j a b, shown[i]? = some a → shown[j]? = some b →
        ((Grid.memberOf a i).key < (Grid.memberOf b j).key ↔
          Grid.reading a.position < Grid.reading b.position)) ∧
      (∀ y, shown.countP (fun a => decide (a.position.y = y)) ≤ s.columns) ∧
      (shown ++ headers).Pairwise fun a b => ¬(a.box s).Overlaps (b.box s) := by
  have hfit := grid_fit htwo hshown hwidth hnode hrank
  have hunplaced := map_sized_unplaced s ns
  have hgroups : (ns.map (sized s)).map Node.group = ns.map Node.group :=
    map_eq_of_unplaced (fun _ => rfl) hunplaced
  refine ⟨Grid.placed s (ns.map (sized s)),
    (Grid.groups (Grid.members (ns.map (sized s)))).map Grid.commonGroup,
    (Grid.sectionsOf s (ns.map (sized s))).map Grid.Section.header,
    nodes_of_grid halfTurn cosine sine es hgrid hcolumns htwo hmost hshown,
    (Grid.placed_unplaced s _).trans hunplaced, ?_, fun g => ?_, Grid.headers_spec hfit,
    (headers_sectionsOf s _).nodup, (Grid.sum_counts s _).trans (List.length_map _),
    fun i j a b ha hb => Grid.key_lt_iff_reading_lt hfit ha hb, fun y => ?_, Grid.boxes_apart hfit⟩
  · exact List.pairwise_map.mpr ((Grid.groups_increasing _).imp Grid.place_lt_of_before)
  · rw [Grid.mem_group_iff, ← List.mem_map, hgroups, List.mem_map]
  · exact (Grid.countP_row_le hfit y).trans (Nat.le_of_eq (max_eq_left hcolumns))

/-- An asynchronous function before one that is exported. -/
def twoGroups : List (Node ℚ) :=
  [.ofFunction "f" .async { FunctionInfo.named "f" with isAsync := true } 1 .async,
    .ofFunction "g" .exported { FunctionInfo.named "g" with isExported := true } 1 .exported]

theorem nodes_in_grid_twoGroups :
    let s : LayoutSettings ℚ := .standard
    (s.arrangement.getD .grid = .grid ∧ 1 ≤ s.columns ∧ 2 ≤ twoGroups.length ∧
      twoGroups.length ≤ maxGridNodes ∧ (∀ n ∈ twoGroups, n.isHeader = false) ∧
      (∀ n ∈ twoGroups, 0 < (NodeSize.ofNode s n).width) ∧ 0 ≤ s.nodeGap ∧ 0 ≤ s.rankGap) ∧
    ∃ shown gs headers, @nodes ℚ (.exact 1 id id) s twoGroups [] = shown ++ headers ∧
      NodeGroup.exported ∈ gs ∧ NodeGroup.async ∈ gs ∧
      List.Forall₂ (Grid.Heads s shown) gs headers ∧
      (shown ++ headers).Pairwise fun a b => ¬(a.box s).Overlaps (b.box s) := by
  intro s
  have hshown : ∀ n ∈ twoGroups, n.isHeader = false := by decide
  have hbounds : s.minWidth = 180 ∧ s.maxWidth = 420 := ⟨ofNat_eq 180, ofNat_eq 420⟩
  have hwidth : ∀ n ∈ twoGroups, 0 < (NodeSize.ofNode s n).width := by
    intro n hn
    have hmin := (NodeSize.ofNode_width s (hshown n hn)
      (by rw [hbounds.1, hbounds.2]; norm_num)).1
    rw [hbounds.1] at hmin
    exact lt_of_lt_of_le (by norm_num) hmin
  have hnode : 0 ≤ s.nodeGap := le_of_le_of_eq (Nat.cast_nonneg 60) (ofNat_eq 60).symm
  have hrank : 0 ≤ s.rankGap := le_of_le_of_eq (Nat.cast_nonneg 100) (ofNat_eq 100).symm
  obtain ⟨shown, gs, headers, hnodes, -, -, hgroups, hheads, -, -, -, -, happart⟩ :=
    nodes_in_grid 1 id id s twoGroups [] rfl (by decide) (by decide) (by decide) hshown hwidth
      hnode hrank
  refine ⟨⟨rfl, by decide, by decide, by decide, hshown, hwidth, hnode, hrank⟩, shown, gs, headers,
    hnodes, ?_, ?_, hheads, happart⟩
  · exact (hgroups _).mpr ⟨_, List.mem_cons_of_mem _ (List.mem_singleton_self _), rfl⟩
  · exact (hgroups _).mpr ⟨_, List.mem_cons_self .., rfl⟩

end Layout

end CallAtlas
