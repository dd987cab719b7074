import CallAtlas.Proofs.ExactBoxes
import CallAtlas.Proofs.LayerRows
import CallAtlas.Proofs.Placement
import CallAtlas.Proofs.Ranks

/-!
# Layers hold boxes apart

The nodes of a layer are placed one after the other along it, each behind the end of the one
before and a gap (`placeRow_pairwise`). The layers are placed one after the other as well. A
node stands somewhere within the thickness of its layer, so nodes of different layers are as
far apart as their layers (`rankBefore_of_depths`); where ranks go on towards smaller
coordinates all is mirrored, and the same holds the other way around.

Both kinds of distance are kept in one list of all placed nodes, by induction on the layers
(`placeRows_pairwise`): of any two nodes the first one comes before the second one along
their layer, or has a lower rank and comes before it across the layers. As every node is in
just one layer, it has just one place (`placements_perm`), and with the ranks of `Ranks`
this gives `positions_apart`.
-/

namespace CallAtlas

open CallAtlas.Measure

/-! ## Boxes one before another -/

namespace Box

variable {K : Type} [Field K] [LinearOrder K]

/-- Along the layers a box ends, and a gap follows, before the other one begins. -/
def AlongBefore (d : Direction) (gap : K) (a b : Box K) : Prop :=
  if d.isHorizontal then a.y + a.height + gap ≤ b.y else a.x + a.width + gap ≤ b.x

/-- In the direction of the ranks a box ends, and a gap follows, before the other one
begins. -/
def RankBefore (d : Direction) (gap : K) (a b : Box K) : Prop :=
  match d with
  | .topBottom => a.y + a.height + gap ≤ b.y
  | .bottomTop => b.y + b.height + gap ≤ a.y
  | .leftRight => a.x + a.width + gap ≤ b.x
  | .rightLeft => b.x + b.width + gap ≤ a.x

variable [IsStrictOrderedRing K] {d : Direction} {gap : K} {a b : Box K}

/-- Boxes one before the other along a layer do not overlap. -/
theorem AlongBefore.not_overlaps (h : AlongBefore d gap a b) (hgap : 0 ≤ gap) :
    ¬a.Overlaps b := by
  unfold AlongBefore at h
  split at h
  · exact not_overlaps_of_above (by linarith)
  · exact not_overlaps_of_left (by linarith)

theorem RankBefore.not_overlaps (h : RankBefore d gap a b) (hgap : 0 ≤ gap) :
    ¬a.Overlaps b := by
  cases d with
  | topBottom =>
    have hy : a.y + a.height + gap ≤ b.y := h
    exact not_overlaps_of_above (by linarith)
  | bottomTop =>
    have hy : b.y + b.height + gap ≤ a.y := h
    exact fun hab => not_overlaps_of_above (by linarith) hab.symm
  | leftRight =>
    have hx : a.x + a.width + gap ≤ b.x := h
    exact not_overlaps_of_left (by linarith)
  | rightLeft =>
    have hx : b.x + b.width + gap ≤ a.x := h
    exact fun hab => not_overlaps_of_left (by linarith) hab.symm

end Box

namespace Hierarchical

variable {K : Type} {s : LayoutSettings K}

/-! ## Ranks and layers -/

/-- The rank of the node with an index. -/
def rankAt (nodes : List (Node K)) (edges : List Edge) (i : Nat) : Nat :=
  (ranks nodes edges).getD i 0

/-- The layers of a graph hold the numbers of their ranks. -/
theorem layers_sorted (nodes : List (Node K)) (edges : List Edge) :
    Layers.Sorted (ranks nodes edges)
      (Layers.ofDigraph (acyclic nodes edges) (ranks nodes edges)) :=
  Layers.ofDigraph_sorted _ _

theorem size_ranks (nodes : List (Node K)) (edges : List Edge) :
    (ranks nodes edges).size = nodes.length :=
  (ranks_ranked Digraph.sorted?_sorts nodes edges).2.1

/-! ## The box of an extent -/

/-- The box of a node with an extent. -/
def Extent.box (s : LayoutSettings K) (e : Extent K) (p : Position K) : Box K :=
  if s.direction.isHorizontal then ⟨p.x, p.y, e.across, e.along⟩
  else ⟨p.x, p.y, e.along, e.across⟩

/-- The box of a node is that of its extent, wherever the node is put. -/
theorem box_extentOf (n : Node K) (p : Position K) :
    ({ n with position := p } : Node K).box s = (extentOf s n).box s p := by
  unfold Extent.box extentOf
  dsimp only
  split <;> rfl

variable [Field K] [LinearOrder K] {e e' : Extent K}

/-- One box comes before another along the layers just if its end and a gap do. -/
theorem alongBefore_iff {along along' across across' gap : K} :
    Box.AlongBefore s.direction gap (e.box s (positionAt s along across))
      (e'.box s (positionAt s along' across')) ↔ along + e.along + gap ≤ along' := by
  unfold Box.AlongBefore Extent.box positionAt
  split <;> rfl

variable [IsStrictOrderedRing K]

/-- Nodes in layers one behind the other are as far apart as the layers. -/
theorem rankBefore_of_depths {total depth depth' thick thick' along along' : K}
    (hdepth : depth + (thick + s.rankGap) ≤ depth') (he : e.across ≤ thick)
    (he' : e'.across ≤ thick') :
    Box.RankBefore s.direction s.rankGap
      (e.box s (positionAt s along (acrossAt s total depth thick e.across)))
      (e'.box s (positionAt s along' (acrossAt s total depth' thick' e'.across))) := by
  have hwithin : depth + (thick - e.across) / 2 + e.across + s.rankGap ≤
      depth' + (thick' - e'.across) / 2 := by linarith
  unfold Extent.box positionAt acrossAt
  rw [half_eq, half_eq]
  cases s.direction with
  | topBottom => exact hwithin
  | leftRight => exact hwithin
  | bottomTop =>
    show total - (depth' + (thick' - e'.across) / 2) - e'.across + e'.across + s.rankGap ≤
      total - (depth + (thick - e.across) / 2) - e.across
    linarith
  | rightLeft =>
    show total - (depth' + (thick' - e'.across) / 2) - e'.across + e'.across + s.rankGap ≤
      total - (depth + (thick - e.across) / 2) - e.across
    linarith

/-! ## One layer -/

section Rows

variable {extent : Nat → Extent K}

/-- A layer has the extents of its nodes, and none of them is negative along the layer. -/
def Measured (extent : Nat → Extent K) (row : Row K) : Prop :=
  ∀ x ∈ row, x.2 = extent x.1 ∧ 0 ≤ (extent x.1).along

/-- The box of a node that has been placed. -/
def placedBox (s : LayoutSettings K) (extent : Nat → Extent K) (x : Nat × Position K) : Box K :=
  (extent x.1).box s x.2

/-- What is placed in a row is one of its nodes, at or behind the place where the row starts, and
across the layers where its own extent puts it. -/
theorem placeRow_mem {total depth thick : K} (hgap : 0 ≤ s.nodeGap) {x : Nat × Position K} :
    ∀ {row : Row K} {along : K}, Measured extent row →
      x ∈ placeRow s total depth thick along row →
        (x.1, extent x.1) ∈ row ∧ ∃ along', along ≤ along' ∧
          x.2 = positionAt s along' (acrossAt s total depth thick (extent x.1).across) := by
  intro row
  induction row with
  | nil => intro along _ hx; cases hx
  | cons y row ih =>
    intro along hrow hx
    obtain ⟨⟨hy, hsize⟩, hrest⟩ := List.forall_mem_cons.mp hrow
    rcases List.mem_cons.mp hx with rfl | hx
    · refine ⟨?_, along, le_refl along, by rw [← hy]⟩
      rw [← hy]
      exact List.mem_cons_self ..
    · obtain ⟨hmem, along', hle, hplace⟩ := ih hrest hx
      refine ⟨List.mem_cons_of_mem _ hmem, along', ?_, hplace⟩
      rw [hy] at hle
      linarith

/-- **In a layer each node comes behind the one before and a gap.** -/
theorem placeRow_pairwise {total depth thick : K} (hgap : 0 ≤ s.nodeGap) :
    ∀ {row : Row K} {along : K}, Measured extent row →
      (placeRow s total depth thick along row).Pairwise fun x y =>
        Box.AlongBefore s.direction s.nodeGap (placedBox s extent x) (placedBox s extent y) := by
  intro row
  induction row with
  | nil => intro along _; exact .nil
  | cons x row ih =>
    intro along hrow
    obtain ⟨⟨hx, -⟩, hrest⟩ := List.forall_mem_cons.mp hrow
    refine .cons (fun y hy => ?_) (ih hrest)
    obtain ⟨-, along', hle, hplace⟩ := placeRow_mem hgap hrest hy
    unfold placedBox
    rw [hplace, alongBefore_iff, ← hx, add_assoc]
    exact hle

omit [IsStrictOrderedRing K] in
/-- A row keeps the order of its nodes. -/
theorem placeRow_indices (total depth thick : K) : ∀ (row : Row K) (along : K),
    (placeRow s total depth thick along row).map Prod.fst = row.map Prod.fst := by
  intro row
  induction row with
  | nil => intro along; rfl
  | cons x row ih => intro along; rw [placeRow, List.map_cons, List.map_cons, ih]

/-! ## All layers -/

omit [IsStrictOrderedRing K] in
/-- No node of a layer is thicker than the layer. -/
theorem across_le_thickness {row : Row K} {x : Nat × Extent K} (h : x ∈ row) :
    x.2.across ≤ thickness row :=
  le_largest (List.mem_map_of_mem h)

/-- What is placed in some layers is a node of one of them, at or behind the depth where they
start. -/
theorem placeRows_mem {widest total : K} (hnode : 0 ≤ s.nodeGap) (hrank : 0 ≤ s.rankGap)
    {x : Nat × Position K} : ∀ {rows : List (Row K)} {depth : K},
      (∀ row ∈ rows, Measured extent row) → x ∈ placeRows s widest total depth rows →
        ∃ row ∈ rows, (x.1, extent x.1) ∈ row ∧ ∃ depth' along, depth ≤ depth' ∧
          x.2 = positionAt s along
            (acrossAt s total depth' (thickness row) (extent x.1).across) := by
  intro rows
  induction rows with
  | nil => intro depth _ hx; cases hx
  | cons row rows ih =>
    intro depth hrows hx
    obtain ⟨hrow, hrest⟩ := List.forall_mem_cons.mp hrows
    rcases List.mem_append.mp hx with hx | hx
    · obtain ⟨hmem, along, -, hplace⟩ := placeRow_mem hnode hrow hx
      exact ⟨row, List.mem_cons_self .., hmem, depth, along, le_refl depth, hplace⟩
    · obtain ⟨row', hrow', hmem, depth', along, hle, hplace⟩ := ih hrest hx
      refine ⟨row', List.mem_cons_of_mem _ hrow', hmem, depth', along, ?_, hplace⟩
      have hthick : 0 ≤ thickness row := largest_nonneg _
      linarith

/-- Of two nodes the first one comes before the second one: along their layer, if they are
in one, and else across the layers. -/
def Follows (s : LayoutSettings K) (extent : Nat → Extent K) (rank : Nat → Nat)
    (x y : Nat × Position K) : Prop :=
  (rank x.1 = rank y.1 ∧
    Box.AlongBefore s.direction s.nodeGap (placedBox s extent x) (placedBox s extent y)) ∨
  (rank x.1 < rank y.1 ∧
    Box.RankBefore s.direction s.rankGap (placedBox s extent x) (placedBox s extent y))

/-- **The nodes of all layers follow one another**, where the layers are those of the ranks
from `first` on. -/
theorem placeRows_pairwise {widest total : K} {rank : Nat → Nat} (hnode : 0 ≤ s.nodeGap)
    (hrank : 0 ≤ s.rankGap) : ∀ {rows : List (Row K)} {depth : K} {first : Nat},
      (∀ row ∈ rows, Measured extent row) →
      (∀ k row, rows[k]? = some row → ∀ x ∈ row, rank x.1 = first + k) →
        (placeRows s widest total depth rows).Pairwise (Follows s extent rank) := by
  intro rows
  induction rows with
  | nil => intro depth first _ _; exact .nil
  | cons row rows ih =>
    intro depth first hrows hranks
    obtain ⟨hrow, hrest⟩ := List.forall_mem_cons.mp hrows
    have hfirst : ∀ x ∈ row, rank x.1 = first := fun x hx => hranks 0 row rfl x hx
    -- behind the first layer the ranks are counted from the next one
    have hlater : ∀ k row, rows[k]? = some row → ∀ x ∈ row, rank x.1 = first + 1 + k := by
      intro k row hk x hx
      rw [Nat.add_assoc, Nat.add_comm 1 k]
      exact hranks (k + 1) row hk x hx
    refine List.pairwise_append.mpr ⟨?_, ih hrest hlater, fun x hx y hy => .inr ?_⟩
    · refine (placeRow_pairwise hnode hrow).imp_of_mem fun {x y} hx hy hxy => .inl ⟨?_, hxy⟩
      rw [hfirst _ (placeRow_mem hnode hrow hx).1, hfirst _ (placeRow_mem hnode hrow hy).1]
    · obtain ⟨hxrow, along, -, hx⟩ := placeRow_mem hnode hrow hx
      obtain ⟨row', hrow', hyrow, depth', along', hdepth, hy⟩ := placeRows_mem hnode hrank hrest hy
      constructor
      · obtain ⟨k, hk⟩ := List.mem_iff_getElem?.mp hrow'
        have hxrank := hfirst _ hxrow
        have hyrank := hlater k row' hk _ hyrow
        dsimp only at hxrank hyrank
        omega
      · unfold placedBox
        rw [hx, hy]
        exact rankBefore_of_depths hdepth (across_le_thickness hxrow) (across_le_thickness hyrow)

omit [IsStrictOrderedRing K] in
/-- Nodes are placed layer by layer, and each as often as it stands in a layer. -/
theorem placeRows_indices (widest total : K) : ∀ (rows : List (Row K)) (depth : K),
    (placeRows s widest total depth rows).map Prod.fst =
      (rows.map fun row => row.map Prod.fst).flatten := by
  intro rows
  induction rows with
  | nil => intro depth; rfl
  | cons row rows ih =>
    intro depth
    rw [placeRows, List.map_append, placeRow_indices, ih, List.map_cons, List.flatten_cons]

end Rows

/-! ## The nodes of a graph -/

section Nodes

variable {nodes : List (Node K)} {edges : List Edge}

/-- The extent of the node with an index. -/
def extentAt (s : LayoutSettings K) (nodes : List (Node K)) (i : Nat) : Extent K :=
  ((nodes.map (extentOf s)).toArray).getD i ⟨zero, zero⟩

/-- Each node with its place, layer by layer. -/
def placements (s : LayoutSettings K) (nodes : List (Node K)) (edges : List Edge) :
    List (Nat × Position K) :=
  let rows := rowsOf s nodes (layers nodes edges)
  placeRows s (largest (rows.map (span s))) (totalDepth s rows) zero rows

omit [IsStrictOrderedRing K]

/-- The extent under an index is that of the node with it. -/
theorem extentAt_eq {i : Nat} {n : Node K} (h : nodes[i]? = some n) :
    extentAt s nodes i = extentOf s n := by
  rw [extentAt, Array.getD_eq_getD_getElem?, List.getElem?_toArray, List.getElem?_map, h]
  rfl

theorem placements_perm (s : LayoutSettings K) (nodes : List (Node K)) (edges : List Edge) :
    ((placements s nodes edges).map Prod.fst).Perm (List.range nodes.length) := by
  have hrows : (rowsOf s nodes (layers nodes edges)).map (fun row => row.map Prod.fst) =
      layers nodes edges := by
    unfold rowsOf
    rw [List.map_map]
    refine (List.map_congr_left fun layer _ => ?_).trans (List.map_id _)
    exact (List.map_map ..).trans (List.map_id layer)
  unfold placements
  dsimp only
  rw [placeRows_indices, hrows, ← size_ranks nodes edges]
  exact (layers_sorted nodes edges).flatten_perm

/-- A node is where it has been placed. -/
theorem placements_of_moved {i : Nat} {a : Node K}
    (h : (Layout.moved nodes (positions s nodes edges))[i]? = some a) :
    (i, a.position) ∈ placements s nodes edges ∧
      a.box s = placedBox s (extentAt s nodes) (i, a.position) := by
  obtain ⟨n, hn, hplaced, ha⟩ := Layout.moved_of_placed (placements_perm s nodes edges) h
  refine ⟨hplaced, ?_⟩
  rw [placedBox, extentAt_eq hn, ← box_extentOf n a.position, ← ha]

variable [IsStrictOrderedRing K]

/-- **Of any two nodes the first one comes before the second one**, in the order in which they are
placed. -/
theorem placements_pairwise
    (hsizes : ∀ n ∈ nodes, 0 ≤ (NodeSize.current s n).width ∧ 0 ≤ (NodeSize.current s n).height)
    (hnode : 0 ≤ s.nodeGap) (hrank : 0 ≤ s.rankGap) :
    (placements s nodes edges).Pairwise (Follows s (extentAt s nodes) (rankAt nodes edges)) := by
  -- no extent is negative, also not under an index without a node, where it is zero
  have halong : ∀ i, 0 ≤ (extentAt s nodes i).along := by
    intro i
    cases hn : nodes[i]? with
    | none =>
      rw [extentAt, Array.getD_eq_getD_getElem?, List.getElem?_toArray, List.getElem?_map, hn]
      exact le_of_eq zero_eq.symm
    | some n =>
      obtain ⟨hwidth, hheight⟩ := hsizes n (List.mem_of_getElem? hn)
      rw [extentAt_eq hn, extentOf]
      split
      · exact hheight
      · exact hwidth
  have hmeasured : ∀ row ∈ rowsOf s nodes (layers nodes edges),
      Measured (extentAt s nodes) row := by
    intro row hrow x hx
    obtain ⟨layer, -, rfl⟩ := List.mem_map.mp hrow
    obtain ⟨n, -, rfl⟩ := List.mem_map.mp hx
    exact ⟨rfl, halong n⟩
  -- the layers are sorted, so the number of a layer is the rank of its nodes
  have hranks : ∀ k row, (rowsOf s nodes (layers nodes edges))[k]? = some row →
      ∀ x ∈ row, rankAt nodes edges x.1 = 0 + k := by
    intro k row hk x hx
    obtain ⟨layer, hlayer, rfl⟩ := List.getElem?_map .. ▸ hk |> Option.map_eq_some_iff.mp
    obtain ⟨n, hn, rfl⟩ := List.mem_map.mp hx
    have hrank : (ranks nodes edges).getD n 0 = k :=
      (layers_sorted nodes edges).rank_of_mem hlayer hn
    rw [Nat.zero_add, ← hrank, rankAt]
  exact placeRows_pairwise hnode hrank hmeasured hranks

/-- Of two nodes that have been placed one follows the other. -/
theorem follows_or_follows
    (hsizes : ∀ n ∈ nodes, 0 ≤ (NodeSize.current s n).width ∧ 0 ≤ (NodeSize.current s n).height)
    (hnode : 0 ≤ s.nodeGap) (hrank : 0 ≤ s.rankGap) {x y : Nat × Position K}
    (hx : x ∈ placements s nodes edges) (hy : y ∈ placements s nodes edges) (hne : x.1 ≠ y.1) :
    Follows s (extentAt s nodes) (rankAt nodes edges) x y ∨
      Follows s (extentAt s nodes) (rankAt nodes edges) y x := by
  exact rel_or_rel (placements_pairwise hsizes hnode hrank) hx hy fun heq =>
    hne (congrArg Prod.fst heq)

/-- **Layers hold nodes apart.** Every node gets one place, and nothing else of it changes.
Two nodes of one rank are at least the distance of nodes apart along their layer, and of two
nodes of different ranks the lower one comes first in the direction of the ranks, at least
the distance of ranks before the other. So no two boxes overlap. And an edge between two nodes
that lies on no cycle leads from the one box to the other in this direction. -/
theorem positions_apart (s : LayoutSettings K) (nodes : List (Node K)) (edges : List Edge)
    (hsizes : ∀ n ∈ nodes, 0 ≤ (NodeSize.current s n).width ∧ 0 ≤ (NodeSize.current s n).height)
    (hnode : 0 ≤ s.nodeGap) (hrank : 0 ≤ s.rankGap) :
    let rank := rankAt nodes edges
    let out := Layout.moved nodes (positions s nodes edges)
    ((placements s nodes edges).map Prod.fst).Perm (List.range nodes.length) ∧
    (∀ i a, out[i]? = some a → (i, a.position) ∈ placements s nodes edges) ∧
    out.map Node.unplaced = nodes.map Node.unplaced ∧
    (∀ i j a b, out[i]? = some a → out[j]? = some b → i ≠ j →
      (rank i = rank j → (a.box s).AlongBefore s.direction s.nodeGap (b.box s) ∨
        (b.box s).AlongBefore s.direction s.nodeGap (a.box s)) ∧
      (rank i < rank j → (a.box s).RankBefore s.direction s.rankGap (b.box s)) ∧
      ¬(a.box s).Overlaps (b.box s)) ∧
    ∀ e ∈ edges, ∀ i j a b, nodes.findIdx? (·.id == e.source) = some i →
      nodes.findIdx? (·.id == e.target) = some j → i ≠ j →
      ¬Relation.ReflTransGen (Joins nodes edges) j i → out[i]? = some a → out[j]? = some b →
      (a.box s).RankBefore s.direction s.rankGap (b.box s) := by
  intro rank out
  -- of two nodes one is placed before the other, whichever has the lower index
  have hapart : ∀ i j a b, out[i]? = some a → out[j]? = some b → i ≠ j →
      (rank i = rank j ∧ (a.box s).AlongBefore s.direction s.nodeGap (b.box s)) ∨
      (rank i < rank j ∧ (a.box s).RankBefore s.direction s.rankGap (b.box s)) ∨
      (rank j = rank i ∧ (b.box s).AlongBefore s.direction s.nodeGap (a.box s)) ∨
      (rank j < rank i ∧ (b.box s).RankBefore s.direction s.rankGap (a.box s)) := by
    intro i j a b ha hb hne
    obtain ⟨hp, habox⟩ := placements_of_moved ha
    obtain ⟨hq, hbbox⟩ := placements_of_moved hb
    have hfollows := follows_or_follows hsizes hnode hrank hp hq hne
    rw [habox, hbbox]
    exact or_assoc.mp hfollows
  have hbefore : ∀ i j a b, out[i]? = some a → out[j]? = some b → rank i < rank j →
      (a.box s).RankBefore s.direction s.rankGap (b.box s) := by
    intro i j a b ha hb hlt
    have hne : i ≠ j := fun heq => absurd hlt (heq ▸ Nat.lt_irrefl _)
    rcases hapart i j a b ha hb hne with ⟨h, -⟩ | ⟨-, h⟩ | ⟨h, -⟩ | ⟨h, -⟩
    · omega
    · exact h
    · omega
    · omega
  refine ⟨placements_perm s nodes edges, fun i a ha => (placements_of_moved ha).1,
    Layout.moved_unplaced (length_positions s nodes edges),
    fun i j a b ha hb hne => ⟨fun heq => ?_, hbefore i j a b ha hb, ?_⟩,
    fun e he i j a b hi hj hne hcycle ha hb => ?_⟩
  · rcases hapart i j a b ha hb hne with ⟨-, h⟩ | ⟨h, -⟩ | ⟨-, h⟩ | ⟨h, -⟩
    · exact .inl h
    · omega
    · exact .inr h
    · omega
  · rcases hapart i j a b ha hb hne with ⟨-, h⟩ | ⟨-, h⟩ | ⟨-, h⟩ | ⟨-, h⟩
    · exact h.not_overlaps hnode
    · exact h.not_overlaps hrank
    · exact fun hab => h.not_overlaps hnode hab.symm
    · exact fun hab => h.not_overlaps hrank hab.symm
  · -- an edge that lies on no cycle is not turned around, and so it goes up
    obtain ⟨-, -, hranked⟩ := ranks_ranked Digraph.sorted?_sorts nodes edges
    exact hbefore i j a b ha hb
      (hranked.raised i j (arrow_acyclic_of_joins ⟨e, he, hi, hj⟩ hne hcycle))

end Nodes

/-- Two nodes of different sizes. The first one calls the second one and itself. -/
def unevenPair : CallGraph ℚ :=
  let node (id : String) (width height : ℚ) : Node ℚ :=
    { Node.ofFunction id .function (.named id) 1 .simple with
      width := some width, height := some height }
  let edge (source target : String) : Edge :=
    ⟨source ++ target, source, target, 1, false, none⟩
  ⟨[node "a" 100 40, node "b" 300 80], [edge "a" "a", edge "a" "b"]⟩

theorem positions_apart_unevenPair :
    let s : LayoutSettings ℚ := { LayoutSettings.standard with direction := .rightLeft }
    let out := Layout.moved unevenPair.nodes (positions s unevenPair.nodes unevenPair.edges)
    (∀ n ∈ unevenPair.nodes,
      0 ≤ (NodeSize.current s n).width ∧ 0 ≤ (NodeSize.current s n).height) ∧
    0 ≤ s.nodeGap ∧ 0 ≤ s.rankGap ∧
    ∃ a b : Node ℚ, out[0]? = some a ∧ out[1]? = some b ∧
      (a.box s).RankBefore .rightLeft s.rankGap (b.box s) ∧ ¬(a.box s).Overlaps (b.box s) := by
  intro s out
  have hsizes : ∀ n ∈ unevenPair.nodes,
      0 ≤ (NodeSize.current s n).width ∧ 0 ≤ (NodeSize.current s n).height := by
    intro n hn
    rcases List.mem_pair.mp hn with rfl | rfl
    · exact ⟨show (0 : ℚ) ≤ 100 by norm_num, show (0 : ℚ) ≤ 40 by norm_num⟩
    · exact ⟨show (0 : ℚ) ≤ 300 by norm_num, show (0 : ℚ) ≤ 80 by norm_num⟩
  have hnode : 0 ≤ s.nodeGap := le_of_le_of_eq (Nat.cast_nonneg 60) (ofNat_eq 60).symm
  have hrank : 0 ≤ s.rankGap := le_of_le_of_eq (Nat.cast_nonneg 100) (ofNat_eq 100).symm
  obtain ⟨-, -, -, hapart, hbefore⟩ :=
    positions_apart s unevenPair.nodes unevenPair.edges hsizes hnode hrank
  have hlength : out.length = 2 :=
    List.length_zipWith.trans (by rw [length_positions]; rfl)
  have ha : out[0]? = some out[0] := List.getElem?_eq_getElem _
  have hb : out[1]? = some out[1] := List.getElem?_eq_getElem _
  have hend : ¬Relation.ReflTransGen (Joins unevenPair.nodes unevenPair.edges) 1 0 := by
    intro hreaches
    rcases hreaches.cases_head with heq | ⟨i, ⟨e, he, hsource, -⟩, -⟩
    · cases heq
    · have hall : ∀ e ∈ unevenPair.edges,
          unevenPair.nodes.findIdx? (·.id == e.source) ≠ some 1 := by decide
      exact hall e he hsource
  have hmem : ⟨"ab", "a", "b", 1, false, none⟩ ∈ unevenPair.edges := by decide
  exact ⟨hsizes, hnode, hrank, out[0], out[1], ha, hb,
    hbefore _ hmem 0 1 _ _ (by decide) (by decide) (by decide) hend ha hb,
    (hapart 0 1 _ _ ha hb (by decide)).2.2⟩

end Hierarchical

end CallAtlas
