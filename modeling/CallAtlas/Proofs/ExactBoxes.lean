import Mathlib.Algebra.Order.Field.Basic
import Mathlib.Tactic.Linarith
import Mathlib.Tactic.NormNum
import CallAtlas.Layout.Box
import CallAtlas.Layout.Placement

/-!
# Boxes that are measured exactly

Layouts are defined for all measures alike. That they hold boxes apart is a fact about
numbers that are not rounded: `Measure.exact` takes the numbers of an ordered field, such as
the rational ones, as a measure, and its operations are those of the field.

Boxes overlap if a point lies inside both (`Box.Overlaps`), which touching boxes do not. They
are shown to be apart by a line between them, upright or level.
-/

namespace CallAtlas

/-! ## Exact numbers -/

section Exact

variable {K : Type} [Field K] [LinearOrder K]

/-- The numbers of an ordered field. None is rounded, and all can be reckoned with. -/
instance (priority := low) Measure.exact : Measure K where
  ofInt := Int.cast
  larger := max
  smaller := min
  isBelow x y := decide (x < y)
  isFinite _ := true

/-- The numbers of an ordered field with any functions for angles. -/
@[reducible] def AngularMeasure.exact (halfTurn : K) (cosine sine : K → K) : AngularMeasure K where
  halfTurn := halfTurn
  cosine := cosine
  sine := sine

namespace Measure

theorem ofNat_eq (n : Nat) : (ofNat n : K) = n := Int.cast_natCast n

theorem zero_eq : (zero : K) = 0 := (ofNat_eq 0).trans Nat.cast_zero

theorem half_eq (x : K) : half x = x / 2 := by
  unfold half
  rw [ofNat_eq]
  rfl

/-- The largest number so far is not below where it started, nor below any that has been
passed. -/
theorem foldl_larger (xs : List K) : ∀ start : K,
    start ≤ xs.foldl larger start ∧ ∀ x ∈ xs, x ≤ xs.foldl larger start := by
  induction xs with
  | nil => intro start; exact ⟨le_refl _, fun x hx => absurd hx List.not_mem_nil⟩
  | cons y xs ih =>
    intro start
    obtain ⟨hstart, hall⟩ := ih (larger start y)
    rw [List.foldl_cons]
    refine ⟨le_trans (le_max_left start y) hstart, fun x hx => ?_⟩
    rcases List.mem_cons.mp hx with rfl | hx
    · exact le_trans (le_max_right start x) hstart
    · exact hall x hx

/-- The largest of some numbers is never negative, since it starts with zero. -/
theorem largest_nonneg (xs : List K) : 0 ≤ largest xs :=
  le_trans (le_of_eq zero_eq.symm) (foldl_larger xs zero).1

theorem le_largest {xs : List K} {x : K} (h : x ∈ xs) : x ≤ largest xs :=
  (foldl_larger xs zero).2 x h

theorem largest_le {xs : List K} {y : K} (hy : 0 ≤ y) (h : ∀ x ∈ xs, x ≤ y) : largest xs ≤ y := by
  have hall : ∀ (xs : List K) (start : K), start ≤ y → (∀ x ∈ xs, x ≤ y) →
      xs.foldl larger start ≤ y := by
    intro xs
    induction xs with
    | nil => intro start hstart _; exact hstart
    | cons x xs ih =>
      intro start hstart h
      obtain ⟨hx, hxs⟩ := List.forall_mem_cons.mp h
      exact ih _ (max_le hstart hx) hxs
  exact hall xs zero (le_of_eq_of_le zero_eq hy) h

theorem sum_eq (xs : List K) : sum xs = xs.sum := by
  have hstart : ∀ (xs : List K) (start : K), xs.foldl (· + ·) start = start + xs.sum := by
    intro xs
    induction xs with
    | nil => intro start; exact (add_zero start).symm
    | cons x xs ih => intro start; rw [List.foldl_cons, ih, List.sum_cons, add_assoc]
  exact (hstart xs zero).trans (by rw [zero_eq, zero_add])

end Measure

end Exact

/-! ## Boxes -/

section Boxes

variable {α : Type} [Add α] [LT α]

/-- Whether a point lies inside a box and not on its border. -/
def Box.Inside (b : Box α) (p : Position α) : Prop :=
  b.x < p.x ∧ p.x < b.x + b.width ∧ b.y < p.y ∧ p.y < b.y + b.height

/-- Two boxes have a point inside both. -/
def Box.Overlaps (a b : Box α) : Prop := ∃ p, a.Inside p ∧ b.Inside p

theorem Box.Overlaps.symm {a b : Box α} (h : a.Overlaps b) : b.Overlaps a := by
  obtain ⟨p, ha, hb⟩ := h
  exact ⟨p, hb, ha⟩

/-- The box of a node. -/
def Node.box {α : Type} (s : LayoutSettings α) (n : Node α) : Box α :=
  let size := NodeSize.current s n
  ⟨n.position.x, n.position.y, size.width, size.height⟩

end Boxes

namespace Box

open CallAtlas.Measure

variable {K : Type} [Field K] [LinearOrder K] {a b : Box K}

/-- An upright line between two boxes keeps them apart. -/
theorem not_overlaps_of_left (h : a.x + a.width ≤ b.x) : ¬a.Overlaps b := by
  rintro ⟨p, ⟨-, hright, -, -⟩, ⟨hleft, -, -, -⟩⟩
  exact absurd (lt_trans hleft hright) (not_lt.mpr h)

theorem not_overlaps_of_above (h : a.y + a.height ≤ b.y) : ¬a.Overlaps b := by
  rintro ⟨p, ⟨-, -, -, hbottom⟩, ⟨-, -, htop, -⟩⟩
  exact absurd (lt_trans htop hbottom) (not_lt.mpr h)

variable [IsStrictOrderedRing K]

/-- Boxes with room inside overlap unless one is beside the other or above it. -/
theorem overlaps_iff (ha : 0 < a.width ∧ 0 < a.height) (hb : 0 < b.width ∧ 0 < b.height) :
    a.Overlaps b ↔ (a.x < b.x + b.width ∧ b.x < a.x + a.width) ∧
      a.y < b.y + b.height ∧ b.y < a.y + a.height := by
  constructor
  · rintro ⟨p, ⟨hax, hax', hay, hay'⟩, ⟨hbx, hbx', hby, hby'⟩⟩
    exact ⟨⟨lt_trans hax hbx', lt_trans hbx hax'⟩, lt_trans hay hby', lt_trans hby hay'⟩
  · rintro ⟨⟨hab, hba⟩, hab', hba'⟩
    have hx : max a.x b.x < min (a.x + a.width) (b.x + b.width) :=
      max_lt (lt_min (by linarith) hab) (lt_min hba (by linarith))
    have hy : max a.y b.y < min (a.y + a.height) (b.y + b.height) :=
      max_lt (lt_min (by linarith) hab') (lt_min hba' (by linarith))
    obtain ⟨x, hlow, hhigh⟩ := exists_between hx
    obtain ⟨y, hlow', hhigh'⟩ := exists_between hy
    obtain ⟨hax, hbx⟩ := max_lt_iff.mp hlow
    obtain ⟨hax', hbx'⟩ := lt_min_iff.mp hhigh
    obtain ⟨hay, hby⟩ := max_lt_iff.mp hlow'
    obtain ⟨hay', hby'⟩ := lt_min_iff.mp hhigh'
    exact ⟨⟨x, y⟩, ⟨hax, hax', hay, hay'⟩, ⟨hbx, hbx', hby, hby'⟩⟩

/-- Boxes overlap if their middles are less than half of both sizes apart. Where no box is wide
none overlap. -/
theorem overlaps_iff_center (hwidth : 0 < a.width ∧ 0 < b.width ∨ a.width = 0 ∧ b.width = 0)
    (hheight : 0 < a.height ∧ 0 < b.height) :
    a.Overlaps b ↔ |b.center.x - a.center.x| < (a.width + b.width) / 2 ∧
      |b.center.y - a.center.y| < (a.height + b.height) / 2 := by
  unfold center
  rw [half_eq, half_eq, half_eq, half_eq, abs_lt, abs_lt]
  rcases hwidth with ⟨ha, hb⟩ | ⟨ha, hb⟩
  · rw [overlaps_iff ⟨ha, hheight.1⟩ ⟨hb, hheight.2⟩]
    constructor
    · rintro ⟨⟨hab, hba⟩, hab', hba'⟩
      exact ⟨⟨by linarith, by linarith⟩, by linarith, by linarith⟩
    · rintro ⟨⟨hba, hab⟩, hba', hab'⟩
      exact ⟨⟨by linarith, by linarith⟩, by linarith, by linarith⟩
  · refine iff_of_false ?_ fun h => ?_
    · rintro ⟨p, ⟨hleft, hright, -, -⟩, -⟩
      linarith
    · linarith [h.1.1, h.1.2]

end Box

/-! ## Sizes of nodes -/

namespace NodeSize

open CallAtlas.Measure

variable {K : Type} [Field K] [LinearOrder K]

/-- What is bounded is not below the lower bound, even if the bounds are crossed. -/
theorem le_bounded (x low high : K) : low ≤ bounded x low high :=
  le_min (le_max_right x low) (le_max_right high low)

/-- What is bounded is not above the upper bound, if the bounds are not crossed. -/
theorem bounded_le (x : K) {low high : K} (h : low ≤ high) : bounded x low high ≤ high :=
  le_trans (min_le_right _ _) (max_le (le_refl high) h)

/-- The width of a node, which is no header, is between the widths of the settings. -/
theorem ofNode_width (s : LayoutSettings K) {n : Node K} (h : n.isHeader = false)
    (hbounds : s.minWidth ≤ s.maxWidth) :
    s.minWidth ≤ (ofNode s n).width ∧ (ofNode s n).width ≤ s.maxWidth := by
  unfold ofNode
  rw [h, if_neg Bool.false_ne_true]
  exact ⟨le_bounded _ _ _, bounded_le _ hbounds⟩

/-- What is written in a node has no negative width. -/
theorem contentWidth_nonneg (n : Node K) : 0 ≤ contentWidth n :=
  le_trans (largest_nonneg _) (le_trans (le_max_right _ _) (le_max_left _ _))

/-- A node of a function has a width unless there is no room for any. -/
theorem ofNode_width_pos [IsStrictOrderedRing K] (s : LayoutSettings K) {n : Node K}
    (h : n.isHeader = false) (hmax : 0 < s.maxWidth) : 0 < (ofNode s n).width := by
  have hcontent : 0 < contentWidth n + padding := by
    have hpadding : (padding : K) = 32 := ofNat_eq 32
    rw [hpadding]
    linarith [contentWidth_nonneg n]
  unfold ofNode
  rw [h, if_neg Bool.false_ne_true]
  exact lt_min (lt_of_lt_of_le hcontent (le_max_left _ _)) (lt_of_lt_of_le hmax (le_max_left _ _))

/-- A node that has been given its size is measured by it. -/
theorem current_sized (s : LayoutSettings K) (n : Node K) :
    current s (Layout.sized s n) = ofNode s n := rfl

/-- A node of a function is at least as high as its label and return type need, and at most
six lines of parameters higher. -/
theorem ofNode_height [IsStrictOrderedRing K] (s : LayoutSettings K) {n : Node K}
    (h : n.isHeader = false) : 60 ≤ (ofNode s n).height ∧ (ofNode s n).height ≤ 168 := by
  have hrows : min n.function.parameters.length maxParameterRows ≤ 6 := min_le_right _ _
  unfold ofNode
  rw [h, if_neg Bool.false_ne_true]
  dsimp only [titleHeight, parameterHeight, returnHeight, minHeight, maxHeight]
  generalize min n.function.parameters.length maxParameterRows = rows at hrows ⊢
  have hcast : (rows : K) ≤ 6 := by exact_mod_cast hrows
  simp only [ofNat_eq, Nat.cast_ofNat]
  refine ⟨le_bounded _ _ _, le_trans (min_le_left _ _) (max_le ?_ (by norm_num))⟩
  linarith

end NodeSize

/-! ## Layouts -/

/-- Without rounding all positions can be reckoned with, so several nodes are where their
arrangement puts them. -/
theorem Layout.nodes_exact {K : Type} [Field K] [LinearOrder K] (halfTurn : K)
    (cosine sine : K → K) (s : LayoutSettings K) {ns : List (Node K)} (es : List Edge)
    (hshown : ∀ n ∈ ns, n.isHeader = false) (htwo : 2 ≤ ns.length) :
    @nodes K (.exact halfTurn cosine sine) s ns es =
      @arranged K (.exact halfTurn cosine sine) s (ns.map (sized s)) es := by
  have hall : ns.filter (!·.isHeader) = ns :=
    List.filter_eq_self.mpr fun n hn => by rw [hshown n hn]; rfl
  have hgrounded : ∀ n : Node K, grounded n = n := fun _ => if_pos rfl
  unfold nodes
  rw [hall]
  split
  · next hnone =>
    have hlength := congrArg List.length hnone
    rw [List.length_map, List.length_nil] at hlength
    omega
  · next n hone =>
    have hlength := congrArg List.length hone
    rw [List.length_map, List.length_singleton] at hlength
    omega
  · exact (List.map_congr_left fun n _ => hgrounded n).trans (List.map_id _)

end CallAtlas
