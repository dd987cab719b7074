import Mathlib.Analysis.Real.Pi.Bounds
import CallAtlas.Proofs.ExactBoxes
import CallAtlas.Proofs.Placement

/-!
# Chords of a circle

The way around the circle of some nodes is as long as all of them and their gaps take. But
neighbours stand at the ends of a chord, which is shorter than the way around between them,
and only its shares along the two axes count for whether boxes overlap (`overlaps_iff_chord`).
So neighbours can overlap, as two of three nodes with long names do (`overlaps_longNamed`).
Nodes that are not neighbours never overlap (`neighbours_of_overlaps`): their chord is longer
than the diagonal of any box (`diagonal_le_chord`). Where that is true of neighbours as well,
no two boxes overlap (`pairwise_of_diagonal`).

Angles are measured exactly here, by the real numbers.
-/

namespace CallAtlas

open CallAtlas.Measure

noncomputable instance : AngularMeasure ℝ := .exact Real.pi Real.cos Real.sin

namespace Circle

/-! ## The radius -/

/-- The radius at which the way around is as long as all nodes and gaps, or the least one. -/
theorem radius_eq (s : LayoutSettings ℝ) (count : Nat) (width : ℝ) :
    radius s count width = max (count * (width + s.nodeGap) / (2 * Real.pi)) 150 := by
  unfold radius minRadius
  rw [ofNat_eq, ofNat_eq, ofNat_eq]
  rfl

theorem least_le_radius (s : LayoutSettings ℝ) (count : Nat) (width : ℝ) :
    150 ≤ radius s count width := by
  rw [radius_eq]
  exact le_max_right _ _

/-- All nodes have room on the circle one after the other. -/
theorem widths_le_round {s : LayoutSettings ℝ} (h : 0 ≤ s.nodeGap) (count : Nat) (width : ℝ) :
    count * width ≤ 2 * Real.pi * radius s count width := by
  have hround : count * (width + s.nodeGap) / (2 * Real.pi) ≤ radius s count width := by
    rw [radius_eq]
    exact le_max_left _ _
  rw [div_le_iff₀ Real.two_pi_pos] at hround
  have hgaps : 0 ≤ (count : ℝ) * s.nodeGap := mul_nonneg (Nat.cast_nonneg _) h
  linarith

/-! ## Chords -/

/-- The chord between two nodes on a circle. -/
noncomputable def chord (r : ℝ) (count i j : Nat) : ℝ :=
  2 * r * Real.sin (Real.pi * (j - i) / count)

/-- The angle between this chord and the level. -/
noncomputable def slope (count i j : Nat) : ℝ := Real.pi * (i + j) / count

/-- What a chord measures along both axes. -/
theorem chord_axes (r : ℝ) (count i j : Nat) :
    r * Real.sin (2 * Real.pi * j / count) - r * Real.sin (2 * Real.pi * i / count) =
        chord r count i j * Real.cos (slope count i j) ∧
      r * Real.cos (2 * Real.pi * i / count) - r * Real.cos (2 * Real.pi * j / count) =
        chord r count i j * Real.sin (slope count i j) := by
  have hsum : (2 * Real.pi * j / count + 2 * Real.pi * i / count) / 2 = slope count i j := by
    unfold slope
    ring
  have hdifference : (2 * Real.pi * j / count - 2 * Real.pi * i / count) / 2 =
      Real.pi * (j - i) / count := by ring
  have hsin := Real.sin_sub_sin (2 * Real.pi * j / count) (2 * Real.pi * i / count)
  have hcos := Real.cos_sub_cos (2 * Real.pi * j / count) (2 * Real.pi * i / count)
  rw [hsum, hdifference] at hsin hcos
  unfold chord
  constructor
  · linear_combination r * hsin
  · linear_combination -r * hcos

/-- What a chord measures along both axes makes up its length. -/
theorem sq_add_sq_chord (c x : ℝ) : (c * Real.cos x) ^ 2 + (c * Real.sin x) ^ 2 = c ^ 2 := by
  linear_combination c ^ 2 * Real.sin_sq_add_cos_sq x

/-- The ends of a chord that is as long as the diagonal of a box cannot be nearer along both
axes than the box is wide and high. -/
theorem not_near_of_diagonal {c x width height w h : ℝ} (hw : w ≤ width) (hh : h ≤ height)
    (hdiagonal : width ^ 2 + height ^ 2 ≤ c ^ 2) :
    ¬(|c * Real.cos x| < w ∧ |c * Real.sin x| < h) := by
  rintro ⟨hcos, hsin⟩
  have hcos' := pow_lt_pow_left₀ (lt_of_lt_of_le hcos hw) (abs_nonneg _) two_ne_zero
  have hsin' := pow_lt_pow_left₀ (lt_of_lt_of_le hsin hh) (abs_nonneg _) two_ne_zero
  rw [sq_abs] at hcos' hsin'
  linarith [sq_add_sq_chord c x]

/-! ## Chords between nodes that are not neighbours -/

/-- A chord over at least a third of the way around is more than one and a half times as
long as the radius. -/
theorem three_fourths_le_sin_sq {x : ℝ} (hlow : Real.pi / 3 ≤ x) (hhigh : x ≤ 2 * Real.pi / 3) :
    3 / 4 ≤ Real.sin x ^ 2 := by
  have hpi := Real.pi_pos
  have hupper : Real.cos x ≤ 1 / 2 := by
    rw [← Real.cos_pi_div_three]
    exact Real.cos_le_cos_of_nonneg_of_le_pi (by linarith) (by linarith) hlow
  have hlower : -(1 / 2) ≤ Real.cos x := by
    rw [← Real.cos_pi_div_three, ← Real.cos_pi_sub]
    exact Real.cos_le_cos_of_nonneg_of_le_pi (by linarith) (by linarith) (by linarith)
  have hcos : Real.cos x ^ 2 ≤ (1 / 2) ^ 2 := sq_le_sq' hlower hupper
  linarith [Real.sin_sq_add_cos_sq x]

/-- Two nodes next to each other on the circle of some nodes. -/
def Neighbours (count i j : Nat) : Prop := j = i + 1 ∨ i = 0 ∧ j + 1 = count

/-- The chord between nodes that are not neighbours is longer than the diagonal of any box. -/
theorem diagonal_le_chord {r width height : ℝ} {count i j : Nat} (hr : 150 ≤ r)
    (hwidth : 0 ≤ width) (hround : count * width ≤ 2 * Real.pi * r) (hheight : 0 ≤ height)
    (hlimit : height ≤ 168) (hij : i < j) (hj : j < count) (hmost : count ≤ 6)
    (hfar : ¬Neighbours count i j) :
    width ^ 2 + height ^ 2 ≤ chord r count i j ^ 2 := by
  have hr0 : 0 ≤ r := by linarith
  have hpi := Real.pi_lt_d2
  have hturn : Real.pi * r ≤ 3.15 * r := mul_le_mul_of_nonneg_right hpi.le hr0
  have hheights : height ^ 2 ≤ (1.12 * r) ^ 2 := pow_le_pow_left₀ hheight (by linarith) 2
  have hsquare := sq_nonneg r
  have hchord : chord r count i j ^ 2 =
      4 * r ^ 2 * Real.sin (Real.pi * (j - i) / count) ^ 2 := by
    unfold chord
    ring
  rw [Neighbours, not_or] at hfar
  have hcases : count = 4 ∧ j = i + 2 ∨ 5 ≤ count ∧ i + 2 ≤ j ∧ j + 2 ≤ count + i := by omega
  rcases hcases with ⟨rfl, rfl⟩ | ⟨hcount, hnear, hback⟩
  · -- of four nodes the other two that are not neighbours stand opposite each other
    have hangle : Real.pi * ((i + 2 : Nat) - i) / (4 : Nat) = Real.pi / 2 := by
      push_cast
      ring
    have hwidths : width ^ 2 ≤ (1.575 * r) ^ 2 := by
      refine pow_le_pow_left₀ hwidth ?_ 2
      push_cast at hround
      linarith
    rw [hchord, hangle, Real.sin_pi_div_two]
    linarith
  · -- of five or six nodes half the angle is from a third to two thirds of a half turn
    have hwidths : width ^ 2 ≤ (1.26 * r) ^ 2 := by
      refine pow_le_pow_left₀ hwidth ?_ 2
      have hfive : (5 : ℝ) * width ≤ count * width :=
        mul_le_mul_of_nonneg_right (by exact_mod_cast hcount) hwidth
      linarith
    have hcount0 : (0 : ℝ) < count := Nat.cast_pos.mpr (by omega)
    have hthird : (count : ℝ) ≤ 3 * (j - i) := by
      have hsteps : ((count + 3 * i : Nat) : ℝ) ≤ (3 * j : Nat) := Nat.cast_le.mpr (by omega)
      push_cast at hsteps
      linarith
    have hthirds : 3 * ((j : ℝ) - i) ≤ 2 * count := by
      have hsteps : ((3 * j : Nat) : ℝ) ≤ (2 * count + 3 * i : Nat) := Nat.cast_le.mpr (by omega)
      push_cast at hsteps
      linarith
    have hlow : Real.pi / 3 ≤ Real.pi * (j - i) / count := by
      rw [le_div_iff₀ hcount0]
      linarith [mul_le_mul_of_nonneg_left hthird Real.pi_pos.le]
    have hhigh : Real.pi * (j - i) / count ≤ 2 * Real.pi / 3 := by
      rw [div_le_iff₀ hcount0]
      linarith [mul_le_mul_of_nonneg_left hthirds Real.pi_pos.le]
    have hsin := mul_le_mul_of_nonneg_left (three_fourths_le_sin_sq hlow hhigh) hsquare
    rw [hchord]
    linarith

/-- The chord between neighbours is the same for all of them. -/
theorem sq_chord_of_neighbours (r : ℝ) {count i j : Nat} (hij : i < j) (hj : j < count)
    (h : Neighbours count i j) :
    chord r count i j ^ 2 = (2 * r * Real.sin (Real.pi / count)) ^ 2 := by
  unfold chord
  rcases h with rfl | ⟨rfl, rfl⟩
  · have hangle : Real.pi * ((i + 1 : Nat) - i) / count = Real.pi / count := by
      push_cast
      ring
    rw [hangle]
  · have hcount : ((j + 1 : Nat) : ℝ) ≠ 0 := Nat.cast_ne_zero.mpr (Nat.succ_ne_zero j)
    have hangle : Real.pi * (j - (0 : Nat)) / (j + 1 : Nat) =
        Real.pi - Real.pi / (j + 1 : Nat) := by
      field_simp
      push_cast
      ring
    rw [hangle, Real.sin_pi_sub]

/-- Two nodes stand opposite each other, one at the top and one at the bottom. -/
theorem chord_of_two (r : ℝ) : chord r 2 0 1 * Real.sin (slope 2 0 1) = 2 * r := by
  have hangle : Real.pi * ((1 : Nat) - (0 : Nat)) / (2 : Nat) = Real.pi / 2 := by
    push_cast
    ring
  have hslope : slope 2 0 1 = Real.pi / 2 := by
    unfold slope
    push_cast
    ring
  rw [chord, hslope, hangle, Real.sin_pi_div_two, mul_one, mul_one]

/-- Of three nodes the second one and the third one stand side by side. -/
theorem chord_of_three (r : ℝ) : chord r 3 1 2 * Real.cos (slope 3 1 2) = -(Real.sqrt 3 * r) ∧
    chord r 3 1 2 * Real.sin (slope 3 1 2) = 0 := by
  have hangle : Real.pi * ((2 : Nat) - (1 : Nat)) / (3 : Nat) = Real.pi / 3 := by
    push_cast
    ring
  have hslope : slope 3 1 2 = Real.pi := by
    unfold slope
    push_cast
    ring
  rw [chord, hslope, hangle, Real.sin_pi_div_three, Real.cos_pi, Real.sin_pi]
  exact ⟨by ring, mul_zero _⟩

/-! ## Nodes on a circle -/

section Nodes

variable {s : LayoutSettings ℝ} {ns : List (Node ℝ)}

/-- The width of the widest node. -/
noncomputable def widest (s : LayoutSettings ℝ) (ns : List (Node ℝ)) : ℝ :=
  largest ((ns.map (NodeSize.current s)).map (·.width))

/-- The height of the highest node. -/
noncomputable def highest (s : LayoutSettings ℝ) (ns : List (Node ℝ)) : ℝ :=
  largest ((ns.map (NodeSize.current s)).map (·.height))

/-- The radius of the circle of some nodes. -/
noncomputable def radiusOf (s : LayoutSettings ℝ) (ns : List (Node ℝ)) : ℝ :=
  radius s ns.length (widest s ns)

/-- Where the middle of a node is. -/
noncomputable def spot (s : LayoutSettings ℝ) (ns : List (Node ℝ)) (i : Nat) : Position ℝ :=
  ⟨radiusOf s ns + widest s ns / 2 + radiusOf s ns * Real.sin (2 * Real.pi * i / ns.length),
    radiusOf s ns + highest s ns / 2 - radiusOf s ns * Real.cos (2 * Real.pi * i / ns.length)⟩

/-- Middles are apart along both axes by what their chord measures there. -/
theorem spot_sub (s : LayoutSettings ℝ) (ns : List (Node ℝ)) (i j : Nat) :
    (spot s ns j).x - (spot s ns i).x =
        chord (radiusOf s ns) ns.length i j * Real.cos (slope ns.length i j) ∧
      (spot s ns j).y - (spot s ns i).y =
        chord (radiusOf s ns) ns.length i j * Real.sin (slope ns.length i j) := by
  obtain ⟨hx, hy⟩ := chord_axes (radiusOf s ns) ns.length i j
  rw [← hx, ← hy]
  exact ⟨add_sub_add_left_eq_sub _ _ _, sub_sub_sub_cancel_left _ _ _⟩

/-- No node is larger than the largest. -/
theorem size_le_largest {n : Node ℝ} (h : n ∈ ns) :
    (NodeSize.current s n).width ≤ widest s ns ∧ (NodeSize.current s n).height ≤ highest s ns := by
  have hsize := List.mem_map_of_mem (f := NodeSize.current s) h
  exact ⟨le_largest (List.mem_map_of_mem hsize), le_largest (List.mem_map_of_mem hsize)⟩

theorem angle_eq (count i : Nat) :
    (angle count i : ℝ) = 2 * Real.pi * i / count - Real.pi / 2 := by
  unfold angle
  rw [half_eq, ofNat_eq, ofNat_eq, ofNat_eq]
  rfl

/-- A node is put with its middle on its spot of the circle. -/
theorem getElem?_positions {i : Nat} {n : Node ℝ} (h : ns[i]? = some n) :
    (positions s ns)[i]? = some ⟨(spot s ns i).x - (NodeSize.current s n).width / 2,
      (spot s ns i).y - (NodeSize.current s n).height / 2⟩ := by
  unfold positions
  dsimp only
  rw [List.getElem?_map, List.getElem?_zipIdx, List.getElem?_map, h]
  refine congrArg some (congrArg₂ Position.mk ?_ ?_)
  · show radiusOf s ns + half (widest s ns) +
      radiusOf s ns * Real.cos (angle ns.length (0 + i)) - half (NodeSize.current s n).width = _
    rw [Nat.zero_add, angle_eq, Real.cos_sub_pi_div_two, half_eq, half_eq]
    rfl
  · show radiusOf s ns + half (highest s ns) +
      radiusOf s ns * Real.sin (angle ns.length (0 + i)) - half (NodeSize.current s n).height = _
    rw [Nat.zero_add, angle_eq, Real.sin_sub_pi_div_two, half_eq, half_eq, mul_neg,
      ← sub_eq_add_neg]
    rfl

/-- The middle of a node is on the circle. -/
theorem center_moved {i : Nat} {a : Node ℝ}
    (h : (Layout.moved ns (positions s ns))[i]? = some a) :
    (∃ n ∈ ns, NodeSize.current s a = NodeSize.current s n) ∧ (a.box s).center = spot s ns i := by
  obtain ⟨n, p, hn, hp, rfl⟩ := List.getElem?_zipWith_eq_some.mp h
  obtain rfl := Option.some.inj ((getElem?_positions hn).symm.trans hp)
  refine ⟨⟨n, List.mem_of_getElem? hn, rfl⟩, ?_⟩
  unfold Box.center
  rw [half_eq, half_eq]
  exact congrArg₂ Position.mk (sub_add_cancel _ _) (sub_add_cancel _ _)

/-- Nodes for a circle: all of them have a size, or none is wide, and none is higher than a
node of a function can be. -/
structure Fit (s : LayoutSettings ℝ) (ns : List (Node ℝ)) : Prop where
  width : (∀ n ∈ ns, 0 < (NodeSize.current s n).width) ∨
    ∀ n ∈ ns, (NodeSize.current s n).width = 0
  height : ∀ n ∈ ns, 0 < (NodeSize.current s n).height ∧ (NodeSize.current s n).height ≤ 168
  nodeGap : 0 ≤ s.nodeGap

variable {i j : Nat} {a b : Node ℝ}

/-- **When boxes on a circle overlap.** The chord between their middles has to measure less
along both axes than half of both sizes. -/
theorem overlaps_iff_chord (h : Fit s ns) (ha : (Layout.moved ns (positions s ns))[i]? = some a)
    (hb : (Layout.moved ns (positions s ns))[j]? = some b) :
    (a.box s).Overlaps (b.box s) ↔
      |chord (radiusOf s ns) ns.length i j * Real.cos (slope ns.length i j)| <
          ((a.box s).width + (b.box s).width) / 2 ∧
        |chord (radiusOf s ns) ns.length i j * Real.sin (slope ns.length i j)| <
          ((a.box s).height + (b.box s).height) / 2 := by
  obtain ⟨hx, hy⟩ := spot_sub s ns i j
  obtain ⟨⟨n, hn, hsize⟩, hcenter⟩ := center_moved ha
  obtain ⟨⟨n', hn', hsize'⟩, hcenter'⟩ := center_moved hb
  have hwidth : 0 < (a.box s).width ∧ 0 < (b.box s).width ∨
      (a.box s).width = 0 ∧ (b.box s).width = 0 := by
    unfold Node.box
    rw [hsize, hsize']
    exact h.width.imp (fun hall => ⟨hall n hn, hall n' hn'⟩) fun hall => ⟨hall n hn, hall n' hn'⟩
  have hheight : 0 < (a.box s).height ∧ 0 < (b.box s).height := by
    unfold Node.box
    rw [hsize, hsize']
    exact ⟨(h.height n hn).1, (h.height n' hn').1⟩
  rw [Box.overlaps_iff_center hwidth hheight, hcenter, hcenter', hx, hy]

/-- The boxes on the circle are no larger than the sizes from which the radius is made. -/
theorem box_le (h : Fit s ns) (ha : (Layout.moved ns (positions s ns))[i]? = some a) :
    (a.box s).width ≤ widest s ns ∧ (a.box s).height ≤ highest s ns ∧
      (a.box s).height ≤ 168 := by
  obtain ⟨⟨n, hn, hsize⟩, -⟩ := center_moved ha
  unfold Node.box
  rw [hsize]
  exact ⟨(size_le_largest hn).1, (size_le_largest hn).2, (h.height n hn).2⟩

/-- **Only neighbours overlap**, and not where there are just two nodes. -/
theorem neighbours_of_overlaps (h : Fit s ns) (hmost : ns.length ≤ 6) (hij : i < j)
    (ha : (Layout.moved ns (positions s ns))[i]? = some a)
    (hb : (Layout.moved ns (positions s ns))[j]? = some b)
    (hoverlaps : (a.box s).Overlaps (b.box s)) : 3 ≤ ns.length ∧ Neighbours ns.length i j := by
  have hj : j < ns.length := by
    have hlt := (List.getElem?_eq_some_iff.mp hb).1
    rw [Layout.moved, List.length_zipWith] at hlt
    exact lt_of_lt_of_le hlt (min_le_left _ _)
  have hnear := (overlaps_iff_chord h ha hb).mp hoverlaps
  have hr : 150 ≤ radiusOf s ns := least_le_radius s ns.length (widest s ns)
  obtain ⟨hwidth, -, hheight⟩ := box_le h ha
  obtain ⟨hwidth', -, hheight'⟩ := box_le h hb
  refine ⟨?_, ?_⟩
  · -- two nodes stand opposite each other, a diameter apart
    by_contra hfew
    obtain ⟨hlength, rfl, rfl⟩ : ns.length = 2 ∧ i = 0 ∧ j = 1 := by omega
    have hopposite := hnear.2
    rw [hlength, chord_of_two] at hopposite
    linarith [le_abs_self (2 * radiusOf s ns)]
  · -- other chords are longer than the diagonal of both boxes
    by_contra hfar
    have hwidest : 0 ≤ widest s ns := largest_nonneg _
    have hdiagonal := diagonal_le_chord hr hwidest
      (widths_le_round h.nodeGap ns.length (widest s ns)) (by norm_num) (le_refl 168) hij hj hmost
      hfar
    exact not_near_of_diagonal (by linarith) (by linarith) hdiagonal hnear

/-- **Long chords hold all boxes apart.** -/
theorem pairwise_of_diagonal (h : Fit s ns) (hmost : ns.length ≤ 6)
    (hdiagonal : widest s ns ^ 2 + highest s ns ^ 2 ≤
      (2 * radiusOf s ns * Real.sin (Real.pi / ns.length)) ^ 2) :
    (Layout.moved ns (positions s ns)).Pairwise fun a b => ¬(a.box s).Overlaps (b.box s) := by
  refine List.pairwise_iff_getElem.mpr fun i j hi hj hij hoverlaps => ?_
  have ha := List.getElem?_eq_getElem hi
  have hb := List.getElem?_eq_getElem hj
  obtain ⟨-, hneighbours⟩ := neighbours_of_overlaps h hmost hij ha hb hoverlaps
  obtain ⟨hwidth, hheight, -⟩ := box_le h ha
  obtain ⟨hwidth', hheight', -⟩ := box_le h hb
  rw [Layout.moved, List.length_zipWith] at hj
  rw [← sq_chord_of_neighbours _ hij (lt_of_lt_of_le hj (min_le_left _ _)) hneighbours]
    at hdiagonal
  exact not_near_of_diagonal (by linarith) (by linarith) hdiagonal
    ((overlaps_iff_chord h ha hb).mp hoverlaps)

end Nodes

end Circle

namespace Layout

open CallAtlas.Circle

/-- Nodes that the layout has sized are fit for a circle. -/
theorem circle_fit {s : LayoutSettings ℝ} {ns : List (Node ℝ)}
    (hshown : ∀ n ∈ ns, n.isHeader = false) (hmin : 0 ≤ s.minWidth)
    (hmax : s.minWidth ≤ s.maxWidth) (hgap : 0 ≤ s.nodeGap) : Fit s (ns.map (sized s)) where
  width := by
    rcases (le_trans hmin hmax).lt_or_eq with hpos | hzero
    · refine .inl fun m hm => ?_
      obtain ⟨n, hn, rfl⟩ := List.mem_map.mp hm
      exact NodeSize.ofNode_width_pos s (hshown n hn) hpos
    · refine .inr fun m hm => ?_
      obtain ⟨n, hn, rfl⟩ := List.mem_map.mp hm
      obtain ⟨hlow, hhigh⟩ := NodeSize.ofNode_width s (hshown n hn) hmax
      exact le_antisymm (by rwa [hzero]) (le_trans hmin hlow)
  height := fun m hm => by
    obtain ⟨n, hn, rfl⟩ := List.mem_map.mp hm
    obtain ⟨hlow, hhigh⟩ := NodeSize.ofNode_height s (hshown n hn)
    exact ⟨lt_of_lt_of_le (by norm_num) hlow, hhigh⟩
  nodeGap := hgap

/-- A circle puts every node of a function somewhere and changes nothing else of it but its
size. -/
theorem nodes_on_circle {s : LayoutSettings ℝ} {ns : List (Node ℝ)} (es : List Edge)
    (hcircle : s.arrangement = some .circular) (htwo : 2 ≤ ns.length)
    (hmost : ns.length ≤ maxCircleNodes) (hshown : ∀ n ∈ ns, n.isHeader = false) :
    nodes s ns es = moved (ns.map (sized s)) (positions s (ns.map (sized s))) := by
  have harranged : arrangementFor s (ns.map (sized s)).length = .circular := by
    rw [arrangementFor, hcircle, List.length_map]
    exact if_neg (Nat.not_lt_of_le hmost)
  refine (nodes_exact Real.pi Real.cos Real.sin s es hshown htwo).trans ?_
  unfold arranged
  rw [harranged]

/-- **What a circle holds apart.** Boxes overlap if the chord between their middles measures
less along both axes than half of both sizes. That happens to neighbours only, and not where
there are just two nodes; and to none at all where the chord between neighbours is as long as
the diagonal of a box that is as wide and as high as any node. -/
theorem overlaps_on_circle (s : LayoutSettings ℝ) (ns : List (Node ℝ)) (es : List Edge)
    (hcircle : s.arrangement = some .circular) (htwo : 2 ≤ ns.length)
    (hmost : ns.length ≤ maxCircleNodes) (hshown : ∀ n ∈ ns, n.isHeader = false)
    (hmin : 0 ≤ s.minWidth) (hmax : s.minWidth ≤ s.maxWidth) (hgap : 0 ≤ s.nodeGap) :
    let width := largest (ns.map fun n => (NodeSize.ofNode s n).width)
    let height := largest (ns.map fun n => (NodeSize.ofNode s n).height)
    let r := radius s ns.length width
    let out := nodes s ns es
    out.map Node.unplaced = ns.map Node.unplaced ∧
    (∀ i j a b, out[i]? = some a → out[j]? = some b → i < j →
      ((a.box s).Overlaps (b.box s) ↔
        |chord r ns.length i j * Real.cos (slope ns.length i j)| <
            ((a.box s).width + (b.box s).width) / 2 ∧
          |chord r ns.length i j * Real.sin (slope ns.length i j)| <
            ((a.box s).height + (b.box s).height) / 2) ∧
      ((a.box s).Overlaps (b.box s) → 3 ≤ ns.length ∧ Neighbours ns.length i j)) ∧
    (width ^ 2 + height ^ 2 ≤ (2 * r * Real.sin (Real.pi / ns.length)) ^ 2 →
      out.Pairwise fun a b => ¬(a.box s).Overlaps (b.box s)) := by
  intro width height r out
  have hfit := circle_fit hshown hmin hmax hgap
  have hwidest : widest s (ns.map (sized s)) = width := by
    unfold widest
    rw [List.map_map, List.map_map]
    rfl
  have hhighest : highest s (ns.map (sized s)) = height := by
    unfold highest
    rw [List.map_map, List.map_map]
    rfl
  have hlength : (ns.map (sized s)).length = ns.length := List.length_map _
  have hradius : radiusOf s (ns.map (sized s)) = r := by rw [radiusOf, hwidest, hlength]
  have hsix : (ns.map (sized s)).length ≤ 6 := by rwa [hlength]
  have hout : out = moved (ns.map (sized s)) (positions s (ns.map (sized s))) :=
    nodes_on_circle es hcircle htwo hmost hshown
  rw [hout]
  refine ⟨(moved_unplaced (length_positions s _)).trans (map_sized_unplaced s ns),
    fun i j a b ha hb hij => ⟨?_, fun hoverlaps => ?_⟩, fun hdiagonal => ?_⟩
  · rw [overlaps_iff_chord hfit ha hb, hradius, hlength]
  · rw [← hlength]
    exact neighbours_of_overlaps hfit hsix hij ha hb hoverlaps
  · refine pairwise_of_diagonal hfit hsix ?_
    rwa [hwidest, hhighest, hradius, hlength]

/-- A function whose name is one letter again and again. -/
noncomputable def longNamed (c : Char) : Node ℝ :=
  let name := String.ofList (List.replicate 49 c)
  .ofFunction name .function (.named name) 1 .simple

/-- The standard settings of a circle. -/
noncomputable def circleSettings : LayoutSettings ℝ :=
  { LayoutSettings.standard with arrangement := some .circular }

theorem circleSettings_lengths : circleSettings.minWidth = 180 ∧ circleSettings.maxWidth = 420 ∧
    circleSettings.nodeGap = 60 :=
  ⟨ofNat_eq 180, ofNat_eq 420, ofNat_eq 60⟩

theorem circleSettings_sound : 0 ≤ circleSettings.minWidth ∧
    circleSettings.minWidth ≤ circleSettings.maxWidth ∧ 0 ≤ circleSettings.nodeGap := by
  obtain ⟨hmin, hmax, hgap⟩ := circleSettings_lengths
  rw [hmin, hmax, hgap]
  norm_num

theorem longNamed_shown (names : List Char) :
    ∀ n ∈ names.map longNamed, n.isHeader = false := by
  intro n hn
  obtain ⟨c, -, rfl⟩ := List.mem_map.mp hn
  rfl

theorem overlaps_on_circle_pair :
    let ns := ['a', 'b'].map longNamed
    let s := circleSettings
    (s.arrangement = some .circular ∧ 2 ≤ ns.length ∧ ns.length ≤ maxCircleNodes ∧
      (∀ n ∈ ns, n.isHeader = false) ∧ 0 ≤ s.minWidth ∧ s.minWidth ≤ s.maxWidth ∧
      0 ≤ s.nodeGap) ∧
    ∃ a b, (nodes s ns [])[0]? = some a ∧ (nodes s ns [])[1]? = some b ∧
      ¬(a.box s).Overlaps (b.box s) := by
  intro ns s
  obtain ⟨hmin, hmax, hgap⟩ := circleSettings_sound
  obtain ⟨hunplaced, hpairs, -⟩ :=
    overlaps_on_circle s ns [] rfl (by decide) (by decide) (longNamed_shown _) hmin hmax hgap
  have hlength : (nodes s ns []).length = 2 := by
    rw [← List.length_map Node.unplaced, hunplaced]
    rfl
  have ha := List.getElem?_eq_getElem (show 0 < (nodes s ns []).length by omega)
  have hb := List.getElem?_eq_getElem (show 1 < (nodes s ns []).length by omega)
  refine ⟨⟨rfl, by decide, by decide, longNamed_shown _, hmin, hmax, hgap⟩, _, _, ha, hb,
    fun h => ?_⟩
  exact absurd ((hpairs 0 1 _ _ ha hb Nat.one_pos).2 h).1 (by decide)

/-- The names are so long that their nodes are as wide as nodes can be. -/
theorem le_width_longNamed (c : Char) :
    420 ≤ (NodeSize.ofNode circleSettings (longNamed c)).width := by
  obtain ⟨-, hmax, -⟩ := circleSettings_lengths
  have htitle : (392 : ℝ) ≤ NodeSize.contentWidth (longNamed c) := by
    refine le_trans (le_of_eq ?_) (le_trans (le_max_left _ _) (le_max_left _ _))
    have hlength : (longNamed c).label.length = 49 :=
      (String.length_ofList ..).trans List.length_replicate
    have hbadges : NodeSize.badges (longNamed c) = (0 : ℝ) := zero_eq
    have hchar : (NodeSize.labelChar : ℝ) = 8 := ofNat_eq 8
    rw [NodeSize.textWidth, hlength, hbadges, hchar, ofNat_eq]
    norm_num
  have hpadding : (NodeSize.padding : ℝ) = 32 := ofNat_eq 32
  refine le_min (le_trans ?_ (le_max_left _ _)) (le_trans (le_of_eq hmax.symm) (le_max_left _ _))
  show (420 : ℝ) ≤ NodeSize.contentWidth (longNamed c) + NodeSize.padding
  rw [hpadding]
  linarith

/-- The circle of three of them is too small. -/
theorem radius_longNamed (names : List Char) (hlength : names.length = 3) :
    let ms := (names.map longNamed).map (sized circleSettings)
    radiusOf circleSettings ms ≤ 240 := by
  intro ms
  obtain ⟨hmin, hmax, hgap⟩ := circleSettings_lengths
  have hcount : ms.length = 3 := by rw [List.length_map, List.length_map, hlength]
  have hwidest : widest circleSettings ms ≤ 420 := by
    refine largest_le (by norm_num) fun x hx => ?_
    obtain ⟨size, hsize, rfl⟩ := List.mem_map.mp hx
    obtain ⟨m, hm, rfl⟩ := List.mem_map.mp hsize
    obtain ⟨n, hn, rfl⟩ := List.mem_map.mp hm
    have hwidth := (NodeSize.ofNode_width circleSettings (longNamed_shown names n hn)
      circleSettings_sound.2.1).2
    rwa [hmax] at hwidth
  rw [radiusOf, radius_eq, hcount, hgap]
  refine max_le ?_ (by norm_num)
  rw [div_le_iff₀ Real.two_pi_pos]
  push_cast
  linarith [Real.pi_gt_three]

theorem box_longNamed {names : List Char} {i : Nat} {a : Node ℝ}
    (ha : (nodes circleSettings (names.map longNamed) [])[i]? = some a)
    (htwo : 2 ≤ names.length) (hmost : names.length ≤ maxCircleNodes) :
    420 ≤ (a.box circleSettings).width ∧ 0 < (a.box circleSettings).height := by
  have hlength : (names.map longNamed).length = names.length := List.length_map _
  rw [nodes_on_circle [] rfl (by omega) (by omega) (longNamed_shown names)] at ha
  obtain ⟨⟨m, hm, hsize⟩, -⟩ := center_moved ha
  obtain ⟨n, hn, rfl⟩ := List.mem_map.mp hm
  have hheight := (NodeSize.ofNode_height circleSettings (longNamed_shown names n hn)).1
  obtain ⟨c, -, rfl⟩ := List.mem_map.mp hn
  unfold Node.box
  rw [hsize, NodeSize.current_sized]
  exact ⟨le_width_longNamed c, lt_of_lt_of_le (by norm_num) hheight⟩

/-- Below the first of three long names stand the other two, one beside the other and not far
enough apart. -/
theorem overlaps_longNamed {names : List Char} (hthree : names.length = 3) {a b : Node ℝ}
    (ha : (nodes circleSettings (names.map longNamed) [])[1]? = some a)
    (hb : (nodes circleSettings (names.map longNamed) [])[2]? = some b) :
    (a.box circleSettings).Overlaps (b.box circleSettings) := by
  obtain ⟨hmin, hmax, hgap⟩ := circleSettings_sound
  have hfit := circle_fit (longNamed_shown names) hmin hmax hgap
  have hlength : (names.map longNamed).length = 3 := (List.length_map _).trans hthree
  have hcount : ((names.map longNamed).map (sized circleSettings)).length = 3 :=
    (List.length_map _).trans hlength
  obtain ⟨hwidth, hheight⟩ := box_longNamed ha (by omega) (by rw [hthree]; decide)
  obtain ⟨hwidth', hheight'⟩ := box_longNamed hb (by omega) (by rw [hthree]; decide)
  have hsmall := radius_longNamed names hthree
  have hleast : 150 ≤ radiusOf circleSettings ((names.map longNamed).map (sized circleSettings)) :=
    least_le_radius _ _ _
  rw [nodes_on_circle [] rfl (by omega) (by rw [hlength]; decide) (longNamed_shown names)] at ha hb
  rw [overlaps_iff_chord hfit ha hb]
  dsimp only at hsmall
  rw [hcount]
  generalize radiusOf circleSettings _ = r at hsmall hleast ⊢
  obtain ⟨hcos, hsin⟩ := chord_of_three r
  have hroot : Real.sqrt 3 < 1.75 := (Real.sqrt_lt' (by norm_num)).mpr (by norm_num)
  have hlevel : Real.sqrt 3 * r < 420 := by
    calc Real.sqrt 3 * r < 1.75 * r := mul_lt_mul_of_pos_right hroot (by linarith)
      _ ≤ 1.75 * 240 := mul_le_mul_of_nonneg_left hsmall (by norm_num)
      _ = 420 := by norm_num
  rw [hcos, hsin, abs_neg, abs_zero, abs_of_nonneg (mul_nonneg (Real.sqrt_nonneg 3) (by linarith))]
  exact ⟨by linarith, by linarith⟩

/-- So the room that there is around the circle does not hold all boxes apart. -/
theorem circle_overlaps : ¬ ∀ (s : LayoutSettings ℝ) (ns : List (Node ℝ)) (es : List Edge),
    s.arrangement = some .circular → 2 ≤ ns.length → ns.length ≤ maxCircleNodes →
    (∀ n ∈ ns, n.isHeader = false) → 0 ≤ s.minWidth → s.minWidth ≤ s.maxWidth →
    0 ≤ s.nodeGap → (nodes s ns es).Pairwise fun a b => ¬(a.box s).Overlaps (b.box s) := by
  intro h
  obtain ⟨hmin, hmax, hgap⟩ := circleSettings_sound
  have happart := h circleSettings (['a', 'b', 'c'].map longNamed) [] rfl (by decide) (by decide)
    (longNamed_shown _) hmin hmax hgap
  have hlength : (nodes circleSettings (['a', 'b', 'c'].map longNamed) []).length = 3 := by
    rw [nodes_on_circle [] rfl (by decide) (by decide) (longNamed_shown _), moved,
      List.length_zipWith, length_positions]
    rfl
  refine List.pairwise_iff_getElem.mp happart 1 2 (by omega) (by omega) (by decide) ?_
  exact overlaps_longNamed rfl (List.getElem?_eq_getElem _) (List.getElem?_eq_getElem _)

end Layout

end CallAtlas
