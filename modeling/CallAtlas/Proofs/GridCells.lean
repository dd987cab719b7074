import Mathlib.Tactic.Ring
import CallAtlas.Proofs.ExactBoxes
import CallAtlas.Proofs.GridGroups

/-!
# Cells and sections of a grid

The cells of a group follow one another row by row. Of two of them the second one is in the
same row and a whole cell to the right, or at least a whole row below (`Mesh.Behind`). The
rows of a group fill the room between its header and the bottom of its section
(`cell_bounds`), and each section begins below the bottom of the one before
(`sections_stacked`). So all cells of a grid follow one another in this way
(`sections_cells`).

`Shows` ties a section to the group that it shows; `sections_shows` says that there is one
section for each group, in the same order.
-/

namespace CallAtlas

namespace Grid

open CallAtlas.Measure

/-- What stands in the second list has its partner in the first. -/
theorem exists_of_mem_right {β γ : Type} {R : β → γ → Prop} {bs : List β} {cs : List γ}
    (h : List.Forall₂ R bs cs) {c : γ} (hc : c ∈ cs) : ∃ b ∈ bs, R b c := by
  induction h with
  | nil => cases hc
  | cons hbc _ ih =>
    rcases List.mem_cons.mp hc with rfl | hc
    · exact ⟨_, List.mem_cons_self .., hbc⟩
    · obtain ⟨b, hb, hR⟩ := ih hc
      exact ⟨b, List.mem_cons_of_mem _ hb, hR⟩

variable {K : Type} [Field K] [LinearOrder K]

/-! ## Cells -/

/-- A mesh with columns, none of whose lengths is negative. -/
structure Mesh.Proper (m : Mesh K) : Prop where
  columns : 0 < m.columns
  pitchX : 0 ≤ m.pitchX
  pitchY : 0 ≤ m.pitchY
  nodeGap : 0 ≤ m.nodeGap
  rankGap : 0 ≤ m.rankGap

/-- A mesh whose cells have room for something, with gaps that are not negative. -/
structure Mesh.Roomy (m : Mesh K) : Prop where
  columns : 0 < m.columns
  pitchX : 0 < m.pitchX
  pitchY : 0 < m.pitchY
  nodeGap : 0 ≤ m.nodeGap
  rankGap : 0 ≤ m.rankGap

/-- Cells with room have no negative lengths. -/
theorem Mesh.Roomy.proper {m : Mesh K} (h : m.Roomy) : m.Proper :=
  ⟨h.columns, le_of_lt h.pitchX, le_of_lt h.pitchY, h.nodeGap, h.rankGap⟩

/-- A position is a whole cell to the right of another one in the same row, or a whole row
below it. -/
def Mesh.Behind (m : Mesh K) (p q : Position K) : Prop :=
  (p.y = q.y ∧ p.x + m.pitchX ≤ q.x) ∨ p.y + m.pitchY ≤ q.y

variable {m : Mesh K}

theorem cell_x (m : Mesh K) (y : K) (slot : Nat) :
    (cell m y slot).x = ((slot % m.columns : Nat) : K) * m.pitchX := by
  rw [cell, ofNat_eq]

theorem cell_y (m : Mesh K) (y : K) (slot : Nat) :
    (cell m y slot).y = y + ((slot / m.columns : Nat) : K) * m.pitchY := by
  rw [cell, ofNat_eq (slot / m.columns)]

omit [Field K] [LinearOrder K] in
/-- The row of a slot is one of the rows that all slots need. -/
theorem row_lt_rowCount (h : 0 < m.columns) {slot count : Nat} (hslot : slot < count) :
    slot / m.columns + 1 ≤ rowCount m count := by
  rw [rowCount, ← Nat.add_div_right slot h]
  exact Nat.div_le_div_right (by omega)

variable [IsStrictOrderedRing K]

/-- One cell more than `k` is not beyond `l`, if `l` is more than `k`. -/
theorem mul_pitch_le {k l : Nat} {pitch : K} (hkl : k + 1 ≤ l) (hpitch : 0 ≤ pitch) :
    (k : K) * pitch + pitch ≤ l * pitch := by
  have hcast : ((k + 1 : Nat) : K) ≤ l := Nat.cast_le.mpr hkl
  calc (k : K) * pitch + pitch = ((k + 1 : Nat) : K) * pitch := by push_cast; ring
    _ ≤ l * pitch := mul_le_mul_of_nonneg_right hcast hpitch

/-- A later cell of a group is behind an earlier one. -/
theorem behind_of_lt (hm : m.Proper) (y : K) {k l : Nat} (hkl : k < l) :
    m.Behind (cell m y k) (cell m y l) := by
  unfold Mesh.Behind
  rw [cell_x, cell_x, cell_y, cell_y]
  rcases (Nat.div_le_div_right (c := m.columns) (Nat.le_of_lt hkl)).lt_or_eq with hrow | hrow
  · refine .inr ?_
    rw [add_assoc]
    exact add_le_add_right (mul_pitch_le hrow hm.pitchY) y
  · -- in one row the remainders are as far apart as the slots
    have hcolumn : k % m.columns < l % m.columns := by
      have hk := Nat.div_add_mod k m.columns
      have hl := Nat.div_add_mod l m.columns
      rw [hrow] at hk
      omega
    exact .inl ⟨by rw [hrow], mul_pitch_le hcolumn hm.pitchX⟩

/-- The cells of a group are in the rows that its nodes take. -/
theorem cell_bounds (hm : m.Proper) (y : K) {slot count : Nat} (hslot : slot < count) :
    y ≤ (cell m y slot).y ∧ (cell m y slot).y + m.pitchY ≤ y + rowCount m count * m.pitchY := by
  rw [cell_y]
  constructor
  · exact le_add_of_nonneg_right (mul_nonneg (Nat.cast_nonneg _) hm.pitchY)
  · rw [add_assoc]
    exact add_le_add_right
      (mul_pitch_le (row_lt_rowCount hm.columns hslot) hm.pitchY) y

/-! ## One section -/

/-- The group that members of one group have. -/
def commonGroup : List Member → NodeGroup
  | [] => .other
  | a :: _ => a.group

/-- The section of a group whose header stands at a height. -/
def sectionAt (m : Mesh K) (y : K) (xs : List Member) : Section K :=
  ⟨headerOf m (commonGroup xs) xs.length y,
    xs.zipIdx.map fun (a, slot) =>
      (a.index, cell m (y + (NodeSize.headerHeight + half m.nodeGap)) slot)⟩

/-- The lower end of a section. -/
def Section.bottom (m : Mesh K) (t : Section K) : K :=
  t.header.position.y + (NodeSize.headerHeight + half m.nodeGap) +
    rowCount m t.cells.length * m.pitchY

/-- A section shows a group. -/
def Shows (m : Mesh K) (xs : List Member) (t : Section K) : Prop := ∃ y, t = sectionAt m y xs

omit [IsStrictOrderedRing K] in
theorem headerHeight_eq : (NodeSize.headerHeight : K) = 36 := ofNat_eq 36

/-- The bottom of a section is below its header. -/
theorem header_le_bottom (hm : m.Proper) (t : Section K) :
    t.header.position.y + 36 ≤ t.bottom m := by
  have hgap := hm.nodeGap
  have hrows : 0 ≤ (rowCount m t.cells.length : K) * m.pitchY :=
    mul_nonneg (Nat.cast_nonneg _) hm.pitchY
  rw [Section.bottom, headerHeight_eq, half_eq]
  linarith

namespace Shows

variable {xs : List Member} {t : Section K}

omit [IsStrictOrderedRing K] in
/-- The header of a section is that of the group, for as many nodes as it has. -/
theorem header (h : Shows m xs t) :
    t.header = headerOf m (commonGroup xs) xs.length t.header.position.y := by
  obtain ⟨y, rfl⟩ := h
  rfl

omit [IsStrictOrderedRing K] in
/-- The cells of a section are of the members of the group, in their order. -/
theorem indices (h : Shows m xs t) : t.cells.map Prod.fst = xs.map Member.index := by
  obtain ⟨y, rfl⟩ := h
  rw [sectionAt, List.map_map]
  conv_rhs => rw [← List.zipIdx_map_fst 0 xs, List.map_map]
  rfl

/-- Every node of a group is below its header, above the bottom of the section, and in one
of the columns. -/
theorem within (hm : m.Proper) (h : Shows m xs t) {c : Nat × Position K} (hc : c ∈ t.cells) :
    t.header.position.y + 36 ≤ c.2.y ∧ c.2.y + m.pitchY ≤ t.bottom m ∧
      ∃ k < m.columns, c.2.x = (k : K) * m.pitchX := by
  obtain ⟨y, rfl⟩ := h
  obtain ⟨⟨a, slot⟩, hslot, rfl⟩ := List.mem_map.mp hc
  have hcount : slot < xs.length := by
    have hlt := List.snd_lt_add_of_mem_zipIdx hslot
    rwa [Nat.zero_add] at hlt
  obtain ⟨htop, hbottom⟩ :=
    cell_bounds hm (y + (NodeSize.headerHeight + half m.nodeGap)) hcount
  have hgap := hm.nodeGap
  refine ⟨?_, ?_, slot % m.columns, Nat.mod_lt _ hm.columns, cell_x ..⟩
  · refine le_trans ?_ htop
    rw [headerHeight_eq, half_eq]
    show y + 36 ≤ y + (36 + m.nodeGap / 2)
    linarith
  · rw [Section.bottom, sectionAt, List.length_map, List.length_zipIdx]
    exact hbottom

/-- The cells of a section follow one another row by row. -/
theorem cells (hm : m.Proper) (h : Shows m xs t) :
    t.cells.Pairwise fun c d => m.Behind c.2 d.2 := by
  obtain ⟨y, rfl⟩ := h
  have hslots : (xs.zipIdx.map Prod.snd).Pairwise (· < ·) := by
    rw [List.zipIdx_map_snd]
    exact List.pairwise_lt_range'
  rw [List.pairwise_map] at hslots
  rw [sectionAt, List.pairwise_map]
  exact hslots.imp fun hlt => behind_of_lt hm _ hlt

end Shows

/-! ## All sections -/

/-- Where the next section begins. -/
def below (m : Mesh K) (y : K) (count : Nat) : K :=
  y + (NodeSize.headerHeight + half m.nodeGap) +
    (ofNat (rowCount m count) * m.pitchY + half m.rankGap)

omit [IsStrictOrderedRing K] in
/-- The first group has its section where the grid begins, and the others begin below it. -/
theorem sections_cons {xs : List Member} (hxs : xs ≠ []) (y : K) (gs : List (List Member)) :
    sections m y (xs :: gs) = sectionAt m y xs :: sections m (below m y xs.length) gs := by
  cases xs with
  | nil => exact absurd rfl hxs
  | cons a xs => rfl

omit [IsStrictOrderedRing K] in
theorem sections_shows : ∀ {gs : List (List Member)} {y : K}, (∀ xs ∈ gs, xs ≠ []) →
    List.Forall₂ (Shows m) gs (sections m y gs) := by
  intro gs
  induction gs with
  | nil => intro y _; exact .nil
  | cons xs gs ih =>
    intro y hgs
    obtain ⟨hxs, hrest⟩ := List.forall_mem_cons.mp hgs
    rw [sections_cons hxs]
    exact .cons ⟨y, rfl⟩ (ih hrest)

/-- A section ends above where the next one begins. -/
theorem bottom_le_below (hm : m.Proper) (y : K) (xs : List Member) :
    (sectionAt m y xs).bottom m ≤ below m y xs.length := by
  have hgap := hm.rankGap
  rw [Section.bottom, below, sectionAt, List.length_map, List.length_zipIdx, ofNat_eq, half_eq,
    half_eq]
  show y + (NodeSize.headerHeight + m.nodeGap / 2) + rowCount m xs.length * m.pitchY ≤
    y + (NodeSize.headerHeight + m.nodeGap / 2) +
      (rowCount m xs.length * m.pitchY + m.rankGap / 2)
  linarith

/-- No section begins above the grid. -/
theorem le_header (hm : m.Proper) : ∀ {gs : List (List Member)} {y : K}, (∀ xs ∈ gs, xs ≠ []) →
    ∀ t ∈ sections m y gs, y ≤ t.header.position.y := by
  intro gs
  induction gs with
  | nil => intro y _ t ht; cases ht
  | cons xs gs ih =>
    intro y hgs t ht
    obtain ⟨hxs, hrest⟩ := List.forall_mem_cons.mp hgs
    rw [sections_cons hxs] at ht
    rcases List.mem_cons.mp ht with rfl | ht
    · exact le_refl y
    · have hheader := header_le_bottom hm (sectionAt m y xs)
      have hbelow := bottom_le_below hm y xs
      have hy : (sectionAt m y xs).header.position.y = y := rfl
      have hnext := ih hrest t ht
      linarith

/-- **Every section is below all sections before it.** -/
theorem sections_stacked (hm : m.Proper) : ∀ {gs : List (List Member)} {y : K},
    (∀ xs ∈ gs, xs ≠ []) →
      (sections m y gs).Pairwise fun t u => t.bottom m ≤ u.header.position.y := by
  intro gs
  induction gs with
  | nil => intro y _; exact .nil
  | cons xs gs ih =>
    intro y hgs
    obtain ⟨hxs, hrest⟩ := List.forall_mem_cons.mp hgs
    rw [sections_cons hxs]
    refine .cons (fun u hu => ?_) (ih hrest)
    exact le_trans (bottom_le_below hm y xs) (le_header hm hrest u hu)

/-- **All cells of a grid follow one another**, row by row and group by group. -/
theorem sections_cells (hm : m.Proper) {gs : List (List Member)} {y : K}
    (hgs : ∀ xs ∈ gs, xs ≠ []) :
    ((sections m y gs).flatMap Section.cells).Pairwise fun c d => m.Behind c.2 d.2 := by
  have hshows := sections_shows (m := m) (y := y) hgs
  refine List.pairwise_flatMap.mpr ⟨fun t ht => ?_, ?_⟩
  · obtain ⟨xs, -, hxs⟩ := exists_of_mem_right hshows ht
    exact hxs.cells hm
  · refine (sections_stacked hm hgs).imp_of_mem fun {t u} ht hu htu c hc d hd => .inr ?_
    obtain ⟨xs, -, hxs⟩ := exists_of_mem_right hshows ht
    obtain ⟨ys, -, hys⟩ := exists_of_mem_right hshows hu
    have hbottom := (hxs.within hm hc).2.1
    have htop := (hys.within hm hd).1
    linarith

end Grid

end CallAtlas
