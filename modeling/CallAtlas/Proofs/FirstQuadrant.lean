import Mathlib.Algebra.Order.BigOperators.Group.List
import Mathlib.Algebra.Order.Field.Basic
import CallAtlas.Configuration.Basic
import CallAtlas.Proofs.GridReading
import CallAtlas.Proofs.LayerPlaces

/-!
# Positions that are not negative

A grid goes on from the origin to the right and downwards. Layers are told in closed form
first (`mem_placements_iff`): a node stands behind all nodes before it in its layer, which
begins where the middle of the layer comes to the middle of the widest one, and its layer
is behind all layers before it. Layers lie within their common depth
(`depthOf_add_thickness`), so no place across the layers is negative.

Along the layers this depends on the sizes. If none is negative neither is a place
(`placements_nonneg`). A configuration without a fault has gaps that are not negative, but its
bounds for the width of nodes may be, and if the upper one is, all nodes are as wide as it says
(`NodeSize.ofNode_width_of_neg`). If gaps do not make up for that, all layers count as nothing
(`largest_span_of_uniform`), each node begins in front of the one before, and where the last one
begins decides (`along_nonneg_iff`). `Layout.nodes_nonneg_iff` tells which positions of a layout
are not negative.
-/

namespace CallAtlas

open CallAtlas.Measure

variable {K : Type} [Field K] [LinearOrder K]

/-! ## Configurations without a fault -/

namespace Configuration

/-- What a configuration without a fault is like. Bounds of widths are only held against each
other. -/
structure Sound (c : Configuration K) : Prop where
  maxSourceBytes : c.analysis.maxSourceBytes ≠ 0
  include_ : c.analysis.include_ ≠ []
  columns : c.layout.columns ≠ 0
  widths : c.layout.minWidth ≤ c.layout.maxWidth
  nodeWidth : 0 ≤ c.layout.nodeWidth
  nodeHeight : 0 ≤ c.layout.nodeHeight
  rankGap : 0 ≤ c.layout.rankGap
  nodeGap : 0 ≤ c.layout.nodeGap

/-- All lengths but negative ones are good. -/
theorem isLength_iff (x : K) : isLength x = true ↔ 0 ≤ x := by
  show (true && !decide (x < zero)) = true ↔ 0 ≤ x
  rw [Bool.true_and, Bool.not_eq_true', decide_eq_false_iff_not, not_lt, zero_eq]

/-- A configuration has no fault just if it is sound. -/
theorem fault?_eq_none_iff {c : Configuration K} : c.fault? = none ↔ c.Sound := by
  have hcrossed : Measure.isBelow c.layout.maxWidth c.layout.minWidth =
      decide (c.layout.maxWidth < c.layout.minWidth) := rfl
  unfold fault?
  dsimp only
  rw [hcrossed]
  constructor
  · intro h
    split_ifs at h with hbytes hinclude hcolumns hwidths hsizes
    simp only [List.all_cons, List.all_nil, Bool.and_true, Bool.and_eq_true, isLength_iff]
      at hsizes
    obtain ⟨hwidth, hheight, hrank, hnode⟩ := hsizes
    exact
      { maxSourceBytes := hbytes
        include_ := fun heq => hinclude (heq ▸ rfl)
        columns := hcolumns
        widths := not_lt.mp fun hlt => hwidths (decide_eq_true hlt)
        nodeWidth := hwidth
        nodeHeight := hheight
        rankGap := hrank
        nodeGap := hnode }
  · intro h
    have hsizes : [c.layout.nodeWidth, c.layout.nodeHeight, c.layout.rankGap,
        c.layout.nodeGap].all isLength = true := by
      simp only [List.all_cons, List.all_nil, Bool.and_true, Bool.and_eq_true, isLength_iff]
      exact ⟨h.nodeWidth, h.nodeHeight, h.rankGap, h.nodeGap⟩
    rw [if_neg h.maxSourceBytes, if_neg (mt List.isEmpty_iff.mp h.include_), if_neg h.columns,
      if_neg (mt of_decide_eq_true (not_lt.mpr h.widths)), if_pos hsizes]

end Configuration

/-! ## Widths -/

namespace NodeSize

variable [IsStrictOrderedRing K] {s : LayoutSettings K} {n : Node K}

/-- What is written in a node with the room around it has no negative width. -/
theorem contentWidth_add_padding_nonneg (n : Node K) : 0 ≤ contentWidth n + padding := by
  have hpadding : (padding : K) = 32 := ofNat_eq 32
  rw [hpadding]
  exact add_nonneg (contentWidth_nonneg n) (by norm_num)

/-- If the upper bound for widths is not negative, no node is less than nothing wide. -/
theorem ofNode_width_nonneg (h : n.isHeader = false) (hmax : 0 ≤ s.maxWidth) :
    0 ≤ (ofNode s n).width := by
  unfold ofNode
  rw [h, if_neg Bool.false_ne_true]
  exact le_min (le_max_of_le_left (contentWidth_add_padding_nonneg n)) (le_max_of_le_left hmax)

/-- Every content is wider than a bound below zero. -/
theorem ofNode_width_of_neg (h : n.isHeader = false) (hbounds : s.minWidth ≤ s.maxWidth)
    (hmax : s.maxWidth < 0) : (ofNode s n).width = s.maxWidth := by
  have hwide : s.maxWidth ≤ max (contentWidth n + padding) s.minWidth :=
    le_max_of_le_left (le_trans (le_of_lt hmax) (contentWidth_add_padding_nonneg n))
  unfold ofNode
  rw [h, if_neg Bool.false_ne_true]
  show min (max (contentWidth n + padding) s.minWidth) (max s.maxWidth s.minWidth) = s.maxWidth
  rw [max_eq_left hbounds, min_eq_right hwide]

end NodeSize

/-! ## Grids -/

namespace Grid

variable [IsStrictOrderedRing K] {s : LayoutSettings K}

/-- The mesh of a grid has no negative lengths. -/
theorem proper_ofNodes (ns : List (Node K)) (hnode : 0 ≤ s.nodeGap) (hrank : 0 ≤ s.rankGap) :
    (Mesh.ofNodes s ns).Proper where
  columns := lt_of_lt_of_le Nat.one_pos (le_max_right _ _)
  pitchX := add_nonneg (largest_nonneg _) hnode
  pitchY := add_nonneg (largest_nonneg _) hnode
  nodeGap := hnode
  rankGap := hrank

theorem placements_nonneg (ns : List (Node K)) (hnode : 0 ≤ s.nodeGap) (hrank : 0 ≤ s.rankGap) :
    ∀ x ∈ placements s ns, 0 ≤ x.2.x ∧ 0 ≤ x.2.y := by
  intro x hx
  have hm := proper_ofNodes ns hnode hrank
  obtain ⟨t, ht, hx⟩ := List.mem_flatMap.mp hx
  obtain ⟨xs, -, hshows⟩ := exists_of_mem_right (sectionsOf_shows s ns) ht
  obtain ⟨hheader, -, k, -, hcolumn⟩ := hshows.within hm hx
  have htop := le_header hm (fun _ hxs => ne_nil_of_mem_groups hxs) t ht
  rw [zero_eq] at htop
  rw [hcolumn]
  exact ⟨mul_nonneg (Nat.cast_nonneg k) hm.pitchX, by linarith⟩

theorem placed_nonneg (ns : List (Node K)) (hnode : 0 ≤ s.nodeGap) (hrank : 0 ≤ s.rankGap) :
    ∀ a ∈ placed s ns, 0 ≤ a.position.x ∧ 0 ≤ a.position.y :=
  (Layout.forall_moved_iff (placements_perm s ns) fun p => 0 ≤ p.x ∧ 0 ≤ p.y).mpr
    (placements_nonneg ns hnode hrank)

/-- No header of a grid is left of the origin or above it. -/
theorem headers_nonneg (ns : List (Node K)) (hnode : 0 ≤ s.nodeGap) (hrank : 0 ≤ s.rankGap) :
    ∀ h ∈ (sectionsOf s ns).map Section.header, 0 ≤ h.position.x ∧ 0 ≤ h.position.y := by
  intro h hh
  obtain ⟨t, ht, rfl⟩ := List.mem_map.mp hh
  obtain ⟨xs, -, hshows⟩ := exists_of_mem_right (sectionsOf_shows s ns) ht
  have hm := proper_ofNodes ns hnode hrank
  have htop := le_header hm (fun _ hxs => ne_nil_of_mem_groups hxs) t ht
  refine ⟨?_, le_of_eq_of_le zero_eq.symm htop⟩
  rw [hshows.header]
  exact le_of_eq zero_eq.symm

end Grid

/-! ## Layers in closed form -/

namespace Hierarchical

variable {s : LayoutSettings K}

/-- How far the node with an index begins behind the first one of its layer. -/
def offset (s : LayoutSettings K) (row : Row K) (j : Nat) : K :=
  ((row.map fun x => x.2.along + s.nodeGap).take j).sum

/-- How deep the layer of a rank begins. -/
def depthOf (s : LayoutSettings K) (rows : List (Row K)) (r : Nat) : K :=
  ((rows.map fun row => thickness row + s.rankGap).take r).sum

/-- The place along its layer of the node with an index. -/
def alongAt (s : LayoutSettings K) (rows : List (Row K)) (row : Row K) (j : Nat) : K :=
  half (largest (rows.map (span s)) - span s row) + offset s row j

/-- A node of a row stands where the row starts and as much further as the nodes before it
take. -/
theorem getElem?_placeRow (total depth thick : K) : ∀ (row : Row K) (along : K) (j : Nat),
    (placeRow s total depth thick along row)[j]? = row[j]?.map fun x =>
      (x.1, positionAt s (along + offset s row j) (acrossAt s total depth thick x.2.across)) := by
  intro row
  induction row with
  | nil => intro along j; rfl
  | cons x row ih =>
    intro along j
    -- the rest of the layer begins behind its first node
    cases j with
    | zero =>
      rw [offset, List.take_zero, List.sum_nil, add_zero]
      rfl
    | succ j =>
      have hoffset : along + offset s (x :: row) (j + 1) =
          along + (x.2.along + s.nodeGap) + offset s row j := by
        unfold offset
        rw [List.map_cons, List.take_succ_cons, List.sum_cons, ← add_assoc]
      rw [hoffset, List.getElem?_cons_succ, ← ih]
      rfl

/-- **Where nodes stand in layers**: each at its offset in its layer, which begins in the middle,
and at the depth of all layers before it. -/
theorem mem_placeRows_iff {widest total : K} {x : Nat × Position K} :
    ∀ {rows : List (Row K)} {depth : K}, x ∈ placeRows s widest total depth rows ↔
      ∃ r row j y, rows[r]? = some row ∧ row[j]? = some y ∧
        x = (y.1, positionAt s (half (widest - span s row) + offset s row j)
          (acrossAt s total (depth + depthOf s rows r) (thickness row) y.2.across)) := by
  intro rows
  induction rows with
  | nil =>
    intro depth
    refine iff_of_false List.not_mem_nil ?_
    rintro ⟨r, row, j, y, hrow, -⟩
    cases hrow
  | cons row rows ih =>
    intro depth
    -- the first layer begins where all layers do, a later one as deep as in the rest of them
    have hfirst : depth + depthOf s (row :: rows) 0 = depth := by
      rw [depthOf, List.take_zero, List.sum_nil, add_zero]
    have hlater : ∀ r, depth + depthOf s (row :: rows) (r + 1) =
        depth + (thickness row + s.rankGap) + depthOf s rows r := by
      intro r
      unfold depthOf
      rw [List.map_cons, List.take_succ_cons, List.sum_cons, ← add_assoc]
    rw [placeRows, List.mem_append, ih, List.mem_iff_getElem?]
    constructor
    · rintro (⟨j, hj⟩ | ⟨r, row', j, y, hr, hj, rfl⟩)
      · rw [getElem?_placeRow, Option.map_eq_some_iff] at hj
        obtain ⟨y, hy, rfl⟩ := hj
        exact ⟨0, row, j, y, rfl, hy, by rw [hfirst]⟩
      · exact ⟨r + 1, row', j, y, hr, hj, by rw [hlater]⟩
    · rintro ⟨r, row', j, y, hr, hj, rfl⟩
      cases r with
      | zero =>
        obtain rfl := Option.some.inj hr
        refine .inl ⟨j, ?_⟩
        rw [getElem?_placeRow, hj, hfirst]
        rfl
      | succ r => exact .inr ⟨r, row', j, y, hr, hj, by rw [hlater]⟩

/-- **Where layers put nodes.** -/
theorem mem_placements_iff {nodes : List (Node K)} {edges : List Edge} {x : Nat × Position K} :
    let rows := rowsOf s nodes (layers nodes edges)
    x ∈ placements s nodes edges ↔ ∃ r row j y, rows[r]? = some row ∧ row[j]? = some y ∧
      x = (y.1, positionAt s (alongAt s rows row j)
        (acrossAt s (totalDepth s rows) (depthOf s rows r) (thickness row) y.2.across)) := by
  intro rows
  unfold placements
  dsimp only
  rw [mem_placeRows_iff]
  simp only [zero_eq, zero_add]
  rfl

/-! ## Layers and their nodes -/

section Nodes

variable {nodes : List (Node K)} {edges : List Edge}

/-- The number of nodes with a rank. -/
def rankCount (nodes : List (Node K)) (edges : List Edge) (r : Nat) : Nat :=
  (List.range nodes.length).countP fun i => rankAt nodes edges i = r

omit [Field K] [LinearOrder K] in
theorem rankCount_le (r : Nat) : rankCount nodes edges r ≤ nodes.length :=
  le_of_le_of_eq List.countP_le_length List.length_range

/-- What a layer holds is the extent of a node. -/
theorem exists_of_mem_row {row : Row K} (hrow : row ∈ rowsOf s nodes (layers nodes edges))
    {x : Nat × Extent K} (hx : x ∈ row) : ∃ n ∈ nodes, x.2 = extentOf s n := by
  obtain ⟨layer, hlayer, rfl⟩ := List.mem_map.mp hrow
  obtain ⟨i, hi, rfl⟩ := List.mem_map.mp hx
  obtain ⟨r, hr⟩ := List.mem_iff_getElem?.mp hlayer
  have hsorted := layers_sorted nodes edges
  have hlt : i < nodes.length := by
    rw [← size_ranks nodes edges]
    exact (hsorted.mem_row_iff.mp (Layers.Sorted.getElem?_row hr ▸ hi)).1
  exact ⟨nodes[i], List.getElem_mem hlt, extentAt_eq (List.getElem?_eq_getElem hlt)⟩

theorem length_row (r : Nat) :
    ((rowsOf s nodes (layers nodes edges))[r]?.getD []).length = rankCount nodes edges r := by
  have hlayer : ((rowsOf s nodes (layers nodes edges))[r]?.getD []).length =
      ((Layers.ofDigraph (acyclic nodes edges) (ranks nodes edges)).rows.getD r []).length := by
    rw [Array.getD_eq_getD_getElem?, ← Array.getElem?_toList, rowsOf, List.getElem?_map]
    unfold layers
    cases (Layers.ofDigraph (acyclic nodes edges) (ranks nodes edges)).rows.toList[r]? with
    | none => rfl
    | some layer => exact List.length_map ..
  rw [hlayer, ((layers_sorted nodes edges).rows r).length_eq, Layers.ofRank, size_ranks,
    ← List.countP_eq_length_filter]
  rfl

end Nodes

/-! ## Sizes and gaps -/

/-- Sizes with gaps between them end one gap before sizes with a gap behind each. -/
theorem sum_gaps (xs : List K) (gap : K) (h : xs ≠ []) :
    sum xs + gap * ofNat (xs.length - 1) + gap = (xs.map (· + gap)).sum := by
  have hlength : xs.length - 1 + 1 = xs.length :=
    Nat.sub_add_cancel (List.length_pos_of_ne_nil h)
  have hgaps : gap * ofNat (xs.length - 1) + gap = xs.length * gap := by
    rw [ofNat_eq, ← hlength]
    push_cast
    ring
  rw [add_assoc, hgaps, sum_eq, List.sum_map_add, List.map_id', List.map_const', List.sum_replicate,
    nsmul_eq_mul]

/-- With one gap more, the span of a row is the sum of its nodes with a gap each. -/
theorem span_add_gap {row : Row K} (h : row ≠ []) :
    span s row + s.nodeGap = (row.map fun x => x.2.along + s.nodeGap).sum := by
  have hsum := sum_gaps (row.map (·.2.along)) s.nodeGap (mt List.map_eq_nil_iff.mp h)
  rw [List.length_map, List.map_map] at hsum
  exact hsum

/-- With one gap more, the depth of all layers is the sum of the layers with a gap each. -/
theorem totalDepth_add_gap {rows : List (Row K)} (h : rows ≠ []) :
    totalDepth s rows + s.rankGap = (rows.map fun row => thickness row + s.rankGap).sum := by
  have hsum := sum_gaps (rows.map thickness) s.rankGap (mt List.map_eq_nil_iff.mp h)
  rw [List.length_map, List.map_map] at hsum
  exact hsum

/-! ## Places across the layers -/

variable [IsStrictOrderedRing K]

/-- Every layer lies within the depth of all layers. -/
theorem depthOf_add_thickness (hrank : 0 ≤ s.rankGap) {rows : List (Row K)} {r : Nat} {row : Row K}
    (h : rows[r]? = some row) :
    0 ≤ depthOf s rows r ∧ depthOf s rows r + thickness row ≤ totalDepth s rows := by
  let deep := rows.map fun row => thickness row + s.rankGap
  have hdeep : ∀ d ∈ deep, 0 ≤ d := by
    intro d hd
    obtain ⟨row', -, rfl⟩ := List.mem_map.mp hd
    exact add_nonneg (largest_nonneg _) hrank
  have hr : r < deep.length := by
    rw [List.length_map]
    exact (List.getElem?_eq_some_iff.mp h).1
  have hrow : deep[r] = thickness row + s.rankGap := by
    rw [List.getElem_map, (List.getElem?_eq_some_iff.mp h).2]
  have htotal : totalDepth s rows + s.rankGap = deep.sum :=
    totalDepth_add_gap fun hnil => by rw [hnil] at h; cases h
  have hnext : (deep.take (r + 1)).sum = depthOf s rows r + (thickness row + s.rankGap) := by
    rw [List.sum_take_succ deep r hr, hrow]
    rfl
  have hle : (deep.take (r + 1)).sum ≤ deep.sum := (List.take_sublist ..).sum_le_sum hdeep
  refine ⟨List.sum_nonneg fun d hd => hdeep d (List.mem_of_mem_take hd), ?_⟩
  linarith

/-- A node within its layer is not above the first layer. -/
theorem acrossAt_nonneg {total depth thick size : K} (hdepth : 0 ≤ depth)
    (htotal : depth + thick ≤ total) (hsize : size ≤ thick) :
    0 ≤ acrossAt s total depth thick size := by
  unfold acrossAt
  rw [half_eq]
  dsimp only
  split <;> linarith

/-! ## Places along a layer -/

/-- If no size is negative, neither is a place along a layer, since no row is longer than the
longest. -/
theorem alongAt_nonneg (hnode : 0 ≤ s.nodeGap) {rows : List (Row K)} {row : Row K}
    (hrow : row ∈ rows) (hsizes : ∀ x ∈ row, 0 ≤ x.2.along) (j : Nat) :
    0 ≤ alongAt s rows row j := by
  have hspan : span s row ≤ largest (rows.map (span s)) := le_largest (List.mem_map_of_mem hrow)
  have hoffset : 0 ≤ offset s row j := by
    refine List.sum_nonneg fun d hd => ?_
    obtain ⟨x, hx, rfl⟩ := List.mem_map.mp (List.mem_of_mem_take hd)
    exact add_nonneg (hsizes x hx) hnode
  rw [alongAt, half_eq]
  linarith

section Uniform

variable {width : K} {row : Row K}

/-- The gaps between some nodes of one width and all of these nodes but two, together. If gaps
do not make up for widths below zero, the last one of the nodes stands at half of this. -/
def slack (gap width : K) (count : Nat) : K :=
  ((count - 1 : Nat) : K) * gap + ((count - 2 : Nat) : K) * width

omit [IsStrictOrderedRing K] in
/-- Nodes of one width stand at equal distances. -/
theorem offset_of_uniform (h : ∀ x ∈ row, x.2.along = width) {j : Nat} (hj : j ≤ row.length) :
    offset s row j = j * (width + s.nodeGap) := by
  have hall : ∀ d ∈ (row.map fun x => x.2.along + s.nodeGap).take j, d = width + s.nodeGap := by
    intro d hd
    obtain ⟨x, hx, rfl⟩ := List.mem_map.mp (List.mem_of_mem_take hd)
    rw [h x hx]
  rw [offset, List.sum_eq_card_nsmul _ _ hall, List.length_take, List.length_map,
    min_eq_left hj, nsmul_eq_mul]

/-- A row of nodes of one width takes as many of these distances as it has nodes, without the last
gap. -/
theorem span_of_uniform (h : ∀ x ∈ row, x.2.along = width) (hrow : row ≠ []) :
    span s row = row.length * (width + s.nodeGap) - s.nodeGap := by
  have hall := offset_of_uniform (s := s) h (Nat.le_refl row.length)
  rw [offset, List.take_of_length_le (List.length_map _).le, ← span_add_gap hrow] at hall
  linarith

/-- Where widths outweigh gaps, all layers count as nothing. -/
theorem largest_span_of_uniform {rows : List (Row K)}
    (h : ∀ row ∈ rows, ∀ x ∈ row, x.2.along = width) (hnode : 0 ≤ s.nodeGap)
    (hneg : width + s.nodeGap ≤ 0) : largest (rows.map (span s)) = 0 := by
  refine le_antisymm (largest_le (le_refl 0) fun l hl => ?_) (largest_nonneg _)
  obtain ⟨row, hrow, rfl⟩ := List.mem_map.mp hl
  rcases eq_or_ne row [] with rfl | hne
  · rw [span, List.map_nil, sum_eq, ofNat_eq]
    simp
  · rw [span_of_uniform (h row hrow) hne]
    have hlength : (row.length : K) * (width + s.nodeGap) ≤ 0 :=
      mul_nonpos_of_nonneg_of_nonpos (Nat.cast_nonneg _) hneg
    linarith

omit [IsStrictOrderedRing K] in
/-- A single node has no slack. -/
theorem slack_of_le_one {count : Nat} (h : count ≤ 1) (gap width : K) :
    slack gap width count = 0 := by
  rw [slack, Nat.sub_eq_zero_of_le h, Nat.sub_eq_zero_of_le (Nat.le_succ_of_le h), Nat.cast_zero,
    zero_mul, zero_mul, add_zero]

omit [IsStrictOrderedRing K] in
/-- Two nodes more add a gap, and each of the others its width with a gap. -/
theorem slack_add_two (gap width : K) (count : Nat) :
    slack gap width (count + 2) = count * (width + gap) + gap := by
  rw [slack, Nat.add_sub_cancel, show count + 2 - 1 = count + 1 from rfl]
  push_cast
  ring

/-- If gaps make up for the widths, there is slack. -/
theorem slack_nonneg {gap : K} (hgap : 0 ≤ gap) (hsum : 0 ≤ width + gap) (count : Nat) :
    0 ≤ slack gap width count := by
  rcases Nat.lt_or_ge count 2 with hfew | hmany
  · exact le_of_eq (slack_of_le_one (Nat.le_of_lt_succ hfew) gap width).symm
  · obtain ⟨count, rfl⟩ := Nat.exists_eq_add_of_le' hmany
    rw [slack_add_two]
    exact add_nonneg (mul_nonneg (Nat.cast_nonneg count) hsum) hgap

/-- **A layer of nodes with one width below zero** has no place below zero just if its gaps are
as long as all nodes but two. -/
theorem along_nonneg_iff {rows : List (Row K)} (h : ∀ row ∈ rows, ∀ x ∈ row, x.2.along = width)
    (hwidth : width < 0) (hnode : 0 ≤ s.nodeGap) (hrow : row ∈ rows) :
    (∀ j < row.length, 0 ≤ alongAt s rows row j) ↔ 0 ≤ slack s.nodeGap width row.length := by
  rcases le_or_gt 0 (width + s.nodeGap) with hsum | hsum
  · -- no node begins in front of the one before
    refine iff_of_true (fun j hj => ?_) (slack_nonneg hnode hsum _)
    have hspan : span s row ≤ largest (rows.map (span s)) := le_largest (List.mem_map_of_mem hrow)
    have hoffset : 0 ≤ (j : K) * (width + s.nodeGap) := mul_nonneg (Nat.cast_nonneg j) hsum
    rw [alongAt, offset_of_uniform (h row hrow) (Nat.le_of_lt hj), half_eq]
    linarith
  · -- each node begins in front of the one before, so the last one decides
    have hplace : ∀ j < row.length, alongAt s rows row j =
        (s.nodeGap - row.length * (width + s.nodeGap)) / 2 + j * (width + s.nodeGap) := by
      intro j hj
      have hne : row ≠ [] := List.ne_nil_of_length_pos (Nat.zero_lt_of_lt hj)
      rw [alongAt, offset_of_uniform (h row hrow) (Nat.le_of_lt hj),
        largest_span_of_uniform h hnode (le_of_lt hsum), span_of_uniform (h row hrow) hne, half_eq,
        zero_sub, neg_sub]
    rcases Nat.lt_or_ge row.length 2 with hfew | hmany
    · refine iff_of_true (fun j hj => ?_)
        (le_of_eq (slack_of_le_one (Nat.le_of_lt_succ hfew) _ _).symm)
      have hone : row.length = 1 := by omega
      obtain rfl : j = 0 := by omega
      rw [hplace 0 hj, hone, Nat.cast_one, Nat.cast_zero]
      linarith
    · obtain ⟨count, hcount⟩ := Nat.exists_eq_add_of_le' hmany
      have hlast : alongAt s rows row (count + 1) = slack s.nodeGap width row.length / 2 := by
        rw [hplace _ (by omega), hcount, slack_add_two]
        push_cast
        ring
      constructor
      · intro hall
        have hplaced := hall (count + 1) (by omega)
        linarith
      · intro hslack j hj
        have hbefore : ((count + 1 : Nat) : K) * (width + s.nodeGap) ≤ j * (width + s.nodeGap) :=
          mul_le_mul_of_nonpos_right (Nat.cast_le.mpr (by omega)) (le_of_lt hsum)
        have hle : alongAt s rows row (count + 1) ≤ alongAt s rows row j := by
          rw [hplace _ (by omega), hplace j hj]
          exact add_le_add_right hbefore _
        linarith

end Uniform

/-! ## The places of nodes -/

section Places

variable {nodes : List (Node K)} {edges : List Edge}

/-- What is placed is in a layer, and its place across the layers is not below zero. -/
theorem exists_of_mem_placements (hrank : 0 ≤ s.rankGap) {x : Nat × Position K}
    (hx : x ∈ placements s nodes edges) :
    let rows := rowsOf s nodes (layers nodes edges)
    ∃ row ∈ rows, ∃ j < row.length, ∃ across, 0 ≤ across ∧
      x.2 = positionAt s (alongAt s rows row j) across := by
  intro rows
  obtain ⟨r, row, j, y, hrow, hy, rfl⟩ := mem_placements_iff.mp hx
  obtain ⟨hdepth, htotal⟩ := depthOf_add_thickness hrank hrow
  exact ⟨row, List.mem_of_getElem? hrow, j, (List.getElem?_eq_some_iff.mp hy).1, _,
    acrossAt_nonneg hdepth htotal (across_le_thickness (List.mem_of_getElem? hy)), rfl⟩

/-- **Layers of nodes without sizes below zero** have no positions below zero. -/
theorem placements_nonneg (edges : List Edge) (hnode : 0 ≤ s.nodeGap) (hrank : 0 ≤ s.rankGap)
    (hsizes : ∀ n ∈ nodes, 0 ≤ (extentOf s n).along) :
    ∀ x ∈ placements s nodes edges, 0 ≤ x.2.x ∧ 0 ≤ x.2.y := by
  intro x hx
  obtain ⟨row, hrow, j, -, across, hacross, hplace⟩ := exists_of_mem_placements hrank hx
  have halong : 0 ≤ alongAt s (rowsOf s nodes (layers nodes edges)) row j := by
    refine alongAt_nonneg hnode hrow (fun y hy => ?_) j
    obtain ⟨n, hn, heq⟩ := exists_of_mem_row hrow hy
    rw [heq]
    exact hsizes n hn
  rw [hplace, positionAt]
  split
  · exact ⟨hacross, halong⟩
  · exact ⟨halong, hacross⟩

/-- **Layers one above the other of nodes with one width below zero** have no positions below
zero just if in every layer gaps are as long as all nodes but two. -/
theorem placements_nonneg_iff (edges : List Edge) (hnode : 0 ≤ s.nodeGap) (hrank : 0 ≤ s.rankGap)
    (hvertical : s.direction.isHorizontal = false) {width : K} (hwidth : width < 0)
    (hsizes : ∀ n ∈ nodes, (NodeSize.current s n).width = width) :
    (∀ x ∈ placements s nodes edges, 0 ≤ x.2.y) ∧
      ((∀ x ∈ placements s nodes edges, 0 ≤ x.2.x) ↔
        ∀ r, 0 ≤ slack s.nodeGap width (rankCount nodes edges r)) := by
  -- one above the other: the place along a layer is the one from the left
  have hplace : ∀ along across : K, positionAt s along across = ⟨along, across⟩ := by
    intro along across
    rw [positionAt, hvertical, if_neg Bool.false_ne_true]
  have huniform : ∀ row ∈ rowsOf s nodes (layers nodes edges), ∀ x ∈ row, x.2.along = width := by
    intro row hrow x hx
    obtain ⟨n, hn, heq⟩ := exists_of_mem_row hrow hx
    rw [heq, extentOf, hvertical, if_neg Bool.false_ne_true]
    exact hsizes n hn
  refine ⟨fun x hx => ?_, fun h r => ?_, fun h x hx => ?_⟩
  · obtain ⟨row, -, j, -, across, hacross, heq⟩ := exists_of_mem_placements hrank hx
    rw [heq, hplace]
    exact hacross
  · rw [← length_row (s := s) r]
    cases hrow : (rowsOf s nodes (layers nodes edges))[r]? with
    | none => exact le_of_eq (slack_of_le_one (Nat.zero_le 1) _ _).symm
    | some row =>
      refine (along_nonneg_iff huniform hwidth hnode (List.mem_of_getElem? hrow)).mp ?_
      intro j hj
      have hx := h _ (mem_placements_iff.mpr
        ⟨r, row, j, row[j], hrow, List.getElem?_eq_getElem hj, rfl⟩)
      rw [hplace] at hx
      exact hx
  · obtain ⟨row, hrow, j, hj, across, -, heq⟩ := exists_of_mem_placements hrank hx
    obtain ⟨r, hr⟩ := List.mem_iff_getElem?.mp hrow
    have hslack := h r
    rw [← length_row (s := s) r, hr] at hslack
    rw [heq, hplace]
    exact (along_nonneg_iff huniform hwidth hnode hrow).mpr hslack j hj

end Places

end Hierarchical

/-! ## Whole layouts -/

namespace Layout

open Hierarchical (slack rankCount)

variable [IsStrictOrderedRing K] {s : LayoutSettings K} {ns : List (Node K)}

/-- In layers only widths below zero, in layers one above the other, lead below zero. -/
theorem layers_nonneg_iff (es : List Edge) (hshown : ∀ n ∈ ns, n.isHeader = false)
    (hbounds : s.minWidth ≤ s.maxWidth) (hnode : 0 ≤ s.nodeGap) (hrank : 0 ≤ s.rankGap) :
    let shown := ns.map (sized s)
    let out := moved shown (Hierarchical.positions s shown es)
    (∀ n ∈ out, 0 ≤ n.position.y) ∧
      ((∀ n ∈ out, 0 ≤ n.position.x) ↔ (s.direction.isHorizontal = false →
        ∀ r, 0 ≤ slack s.nodeGap s.maxWidth (rankCount shown es r))) := by
  intro shown out
  have hout : ∀ P : Position K → Prop, (∀ n ∈ out, P n.position) ↔
      ∀ x ∈ Hierarchical.placements s shown es, P x.2 :=
    forall_moved_iff (Hierarchical.placements_perm s shown es)
  have hinside : (∀ n ∈ shown, 0 ≤ (Hierarchical.extentOf s n).along) →
      (∀ n ∈ out, 0 ≤ n.position.y) ∧ ∀ n ∈ out, 0 ≤ n.position.x := by
    intro hsizes
    have hall := Hierarchical.placements_nonneg es hnode hrank hsizes
    exact ⟨(hout fun p => 0 ≤ p.y).mpr fun x hx => (hall x hx).2,
      (hout fun p => 0 ≤ p.x).mpr fun x hx => (hall x hx).1⟩
  cases hdirection : s.direction.isHorizontal with
  | true =>
    -- nodes stand one below the other in their layers, and heights have a bound of their own
    have hsizes : ∀ n ∈ shown, 0 ≤ (Hierarchical.extentOf s n).along := by
      intro n hn
      obtain ⟨m, hm, rfl⟩ := List.mem_map.mp hn
      rw [Hierarchical.extentOf, hdirection, if_pos rfl]
      exact le_trans (by norm_num) (NodeSize.ofNode_height s (hshown m hm)).1
    obtain ⟨hy, hx⟩ := hinside hsizes
    exact ⟨hy, iff_of_true hx fun hfalse => absurd hfalse (by decide)⟩
  | false =>
    rcases le_or_gt 0 s.maxWidth with hmax | hmax
    · have hsizes : ∀ n ∈ shown, 0 ≤ (Hierarchical.extentOf s n).along := by
        intro n hn
        obtain ⟨m, hm, rfl⟩ := List.mem_map.mp hn
        rw [Hierarchical.extentOf, hdirection, if_neg Bool.false_ne_true]
        exact NodeSize.ofNode_width_nonneg (hshown m hm) hmax
      obtain ⟨hy, hx⟩ := hinside hsizes
      have hsum : 0 ≤ s.maxWidth + s.nodeGap := add_nonneg hmax hnode
      exact ⟨hy, iff_of_true hx fun _ r => Hierarchical.slack_nonneg hnode hsum _⟩
    · have hsizes : ∀ n ∈ shown, (NodeSize.current s n).width = s.maxWidth := by
        intro n hn
        obtain ⟨m, hm, rfl⟩ := List.mem_map.mp hn
        exact NodeSize.ofNode_width_of_neg (hshown m hm) hbounds hmax
      obtain ⟨hy, hx⟩ :=
        Hierarchical.placements_nonneg_iff es hnode hrank hdirection hmax hsizes
      exact ⟨(hout fun p => 0 ≤ p.y).mpr hy,
        (hout fun p => 0 ≤ p.x).trans (hx.trans ⟨fun h _ => h, fun h => h rfl⟩)⟩

omit [IsStrictOrderedRing K] in
/-- Headers have no part in a layout. -/
theorem nodes_filter (halfTurn : K) (cosine sine : K → K) (s : LayoutSettings K)
    (ns : List (Node K)) (es : List Edge) :
    @nodes K (.exact halfTurn cosine sine) s (ns.filter (!·.isHeader)) es =
      @nodes K (.exact halfTurn cosine sine) s ns es := by
  unfold nodes
  rw [List.filter_filter]
  simp only [Bool.and_self]

omit [IsStrictOrderedRing K] in
/-- A node alone stands where single nodes do. -/
theorem position_of_few (halfTurn : K) (cosine sine : K → K) (es : List Edge)
    (hfew : (ns.filter (!·.isHeader)).length ≤ 1) :
    ∀ n ∈ @nodes K (.exact halfTurn cosine sine) s ns es, n.position = alone := by
  intro n hn
  unfold nodes at hn
  split at hn
  · exact absurd hn List.not_mem_nil
  · rw [List.mem_singleton.mp hn]
  · next hnone hone =>
    rw [← List.length_map (f := sized s)] at hfew
    rcases Nat.le_one_iff_eq_zero_or_eq_one.mp hfew with hzero | hone'
    · exact absurd (List.length_eq_zero_iff.mp hzero) hnone
    · obtain ⟨m, hm⟩ := List.length_eq_one_iff.mp hone'
      exact absurd hm (hone m)

/-- **Which positions are not negative.** With a configuration without a fault, nothing that
layers or a grid show is above the origin. Something is left of it just if nodes stand in layers
one above the other and some layer has so many of them, of a width below zero, that its gaps do
not make up for all but two. This cannot be if the upper bound of widths is not negative. -/
theorem nodes_nonneg_iff (halfTurn : K) (cosine sine : K → K) (c : Configuration K)
    (ns : List (Node K)) (es : List Edge) (hvalid : c.fault? = none)
    (harranged : arrangementFor c.layout (ns.filter (!·.isHeader)).length ≠ .circular) :
    let s := c.layout
    let shown := (ns.filter (!·.isHeader)).map (sized s)
    let out := @nodes K (.exact halfTurn cosine sine) s ns es
    (∀ n ∈ out, 0 ≤ n.position.y) ∧
      ((∀ n ∈ out, 0 ≤ n.position.x) ↔
        (arrangementFor s shown.length = .hierarchical → s.direction.isHorizontal = false →
          ∀ r, 0 ≤ slack s.nodeGap s.maxWidth (rankCount shown es r))) ∧
      (0 ≤ s.maxWidth → ∀ n ∈ out, 0 ≤ n.position.x) := by
  intro s shown out
  have hsound := Configuration.fault?_eq_none_iff.mp hvalid
  have hshown : ∀ n ∈ ns.filter (!·.isHeader), n.isHeader = false := by
    intro n hn
    simpa using (List.mem_filter.mp hn).2
  have hsigns : (∀ n ∈ out, 0 ≤ n.position.y) ∧ ((∀ n ∈ out, 0 ≤ n.position.x) ↔
      (arrangementFor s shown.length = .hierarchical → s.direction.isHorizontal = false →
        ∀ r, 0 ≤ slack s.nodeGap s.maxWidth (rankCount shown es r))) := by
    rcases Nat.lt_or_ge (ns.filter (!·.isHeader)).length 2 with hfew | hmany
    · -- a node that is alone has a fixed place, and no rank has two nodes
      have halone := position_of_few (s := s) halfTurn cosine sine es
        (Nat.le_of_lt_succ hfew)
      have hplace : (0 : K) ≤ (alone : Position K).x ∧ (0 : K) ≤ (alone : Position K).y :=
        ⟨le_of_le_of_eq (Nat.cast_nonneg 250) (ofNat_eq 250).symm,
          le_of_le_of_eq (Nat.cast_nonneg 150) (ofNat_eq 150).symm⟩
      refine ⟨fun n hn => halone n hn ▸ hplace.2,
        iff_of_true (fun n hn => halone n hn ▸ hplace.1) fun _ _ r => ?_⟩
      have hcount : rankCount shown es r ≤ 1 :=
        (Hierarchical.rankCount_le r).trans (by rw [List.length_map]; omega)
      exact le_of_eq (Hierarchical.slack_of_le_one hcount _ _).symm
    · -- of several nodes each has the place that the arrangement gives it
      have hout : out = @arranged K (.exact halfTurn cosine sine) s shown es :=
        (nodes_filter halfTurn cosine sine s ns es).symm.trans
          (nodes_exact halfTurn cosine sine s es hshown hmany)
      rw [hout]
      unfold arranged
      rw [← List.length_map (f := sized s)] at harranged
      cases hkind : arrangementFor s shown.length with
      | hierarchical =>
        obtain ⟨hy, hx⟩ := layers_nonneg_iff es hshown hsound.widths hsound.nodeGap
          hsound.rankGap
        exact ⟨hy, hx.trans ⟨fun h _ => h, fun h => h rfl⟩⟩
      | grid =>
        have hall := List.forall_mem_append.mpr
          ⟨Grid.placed_nonneg shown hsound.nodeGap hsound.rankGap,
            Grid.headers_nonneg shown hsound.nodeGap hsound.rankGap⟩
        exact ⟨fun n hn => (hall n hn).2,
          iff_of_true (fun n hn => (hall n hn).1) fun hlayers => absurd hlayers (by decide)⟩
      | circular => exact absurd hkind harranged
  refine ⟨hsigns.1, hsigns.2, fun hmax => hsigns.2.mpr fun _ _ r => ?_⟩
  exact Hierarchical.slack_nonneg hsound.nodeGap (add_nonneg hmax hsound.nodeGap) _

/-- A configuration for layers in which no node is as wide as nothing. -/
def narrow (gap : ℚ) : Configuration ℚ :=
  let layout : LayoutSettings ℚ :=
    { LayoutSettings.standard with
        arrangement := some .hierarchical, nodeGap := gap, minWidth := -500, maxWidth := -100 }
  ⟨.standard, layout, .standard⟩

/-- Nothing is wrong with such widths. -/
theorem narrow_fault? {gap : ℚ} (hgap : 0 ≤ gap) : (narrow gap).fault? = none :=
  Configuration.fault?_eq_none_iff.mpr
    { maxSourceBytes := show defaultSourceLimit ≠ 0 by decide
      include_ := List.cons_ne_nil _ _
      columns := show 4 ≠ 0 by decide
      widths := show (-500 : ℚ) ≤ -100 by norm_num
      nodeWidth := le_of_le_of_eq (Nat.cast_nonneg 220) (ofNat_eq 220).symm
      nodeHeight := le_of_le_of_eq (Nat.cast_nonneg 80) (ofNat_eq 80).symm
      rankGap := le_of_le_of_eq (Nat.cast_nonneg 100) (ofNat_eq 100).symm
      nodeGap := hgap }

/-- Three functions without calls. -/
def threeFunctions : List (Node ℚ) :=
  ["a", "b", "c"].map fun name => .ofFunction name .function (.named name) 1 .simple

/-- Gaps that are as long as widths are below zero make up for them. -/
theorem nodes_nonneg_iff_narrow :
    (narrow 100).fault? = none ∧
    arrangementFor (narrow 100).layout (threeFunctions.filter (!·.isHeader)).length ≠ .circular ∧
    ∀ n ∈ @nodes ℚ (.exact 1 id id) (narrow 100).layout threeFunctions [],
      0 ≤ n.position.x ∧ 0 ≤ n.position.y := by
  have hvalid : (narrow 100).fault? = none := narrow_fault? (by norm_num)
  have harranged : arrangementFor (narrow 100).layout
      (threeFunctions.filter (!·.isHeader)).length ≠ .circular := by decide
  obtain ⟨hy, hx, -⟩ := nodes_nonneg_iff 1 id id (narrow 100) threeFunctions [] hvalid harranged
  have hslack : ∀ count, 0 ≤ slack (narrow 100).layout.nodeGap (narrow 100).layout.maxWidth count :=
    Hierarchical.slack_nonneg (show (0 : ℚ) ≤ 100 by norm_num)
      (show (0 : ℚ) ≤ -100 + 100 by norm_num)
  exact ⟨hvalid, harranged, fun n hn => ⟨hx.mpr (fun _ _ r => hslack _) n hn, hy n hn⟩⟩

/-- Without gaps the last one of three nodes in a layer stands left of the origin. -/
theorem layer_left_of_origin : ¬∀ (c : Configuration ℚ) (ns : List (Node ℚ)) (es : List Edge),
    c.fault? = none →
    c.layout.arrangement = some .hierarchical ∨ c.layout.arrangement = some .grid →
    ∀ n ∈ @nodes ℚ (.exact 1 id id) c.layout ns es, 0 ≤ n.position.x ∧ 0 ≤ n.position.y := by
  intro h
  have hshown : ∀ n ∈ threeFunctions, n.isHeader = false := by decide
  have hall := h (narrow 0) threeFunctions [] (narrow_fault? (le_refl 0)) (.inl rfl)
  rw [nodes_exact 1 id id _ [] hshown (by decide)] at hall
  have hlayers := (layers_nonneg_iff (s := (narrow 0).layout) [] hshown
    (show (-500 : ℚ) ≤ -100 by norm_num) (le_refl 0)
    (le_of_le_of_eq (Nat.cast_nonneg 100) (ofNat_eq 100).symm)).2.mp (fun n hn => (hall n hn).1)
  have hcount : rankCount (threeFunctions.map (sized (narrow 0).layout)) [] 0 = 3 := by decide
  have hslack := hlayers rfl 0
  rw [hcount] at hslack
  have hneg : slack (0 : ℚ) (-100) 3 = -100 := by norm_num [slack]
  exact absurd (hneg ▸ hslack) (by norm_num)

end Layout

end CallAtlas
