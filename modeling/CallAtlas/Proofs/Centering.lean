import CallAtlas.Proofs.ExactBoxes

/-!
# The box around nodes, and its middle

`Box.around` gathers the corners of nodes in one pass. What it finds is told here without the
pass: the box goes around the boxes of the nodes (`Box.GoesAround`), which are all within it,
and one of which is at each of its sides. There is only one such box (`GoesAround.unique`), so
the pass is followed once, in `around_goesAround`. That the box around nodes moves along when
all of them move the same way is then a fact about the boxes (`around_map_shifted`), and that
`Box.centered` puts the middle where it should be follows from it.

The numbers are those of an ordered field. No size is asked to be positive: a node whose box
is turned over has its sides in the other order, and they are gathered as they are.
-/

namespace CallAtlas

namespace Box

variable {K : Type} [Field K]

/-- Where a box ends on the right. -/
def right (b : Box K) : K := b.x + b.width

/-- Where a box ends below. -/
def bottom (b : Box K) : K := b.y + b.height

/-- A box moved by a way. -/
def shifted (way : Position K) (b : Box K) : Box K :=
  { b with x := b.x + way.x, y := b.y + way.y }

theorem right_shifted (way : Position K) (b : Box K) :
    (b.shifted way).right = b.right + way.x :=
  add_right_comm b.x way.x b.width

theorem bottom_shifted (way : Position K) (b : Box K) :
    (b.shifted way).bottom = b.bottom + way.y :=
  add_right_comm b.y way.y b.height

/-- Two boxes with the same four sides are the same. -/
theorem ext_sides {a b : Box K} (hx : a.x = b.x) (hy : a.y = b.y) (hright : a.right = b.right)
    (hbottom : a.bottom = b.bottom) : a = b := by
  obtain ⟨x, y, width, height⟩ := a
  obtain ⟨x', y', width', height'⟩ := b
  obtain rfl : x = x' := hx
  obtain rfl : y = y' := hy
  obtain rfl : width = width' := add_left_cancel hright
  obtain rfl : height = height' := add_left_cancel hbottom
  rfl

variable [LinearOrder K]

/-! ## What it is to go around -/

/-- No side of the second box is beyond the first one's. -/
structure Covers (b a : Box K) : Prop where
  left : b.x ≤ a.x
  top : b.y ≤ a.y
  right : a.right ≤ b.right
  bottom : a.bottom ≤ b.bottom

/-- All boxes are within one, and each of its sides is touched by one of them. -/
structure GoesAround (b : Box K) (inner : List (Box K)) : Prop where
  covers : ∀ a ∈ inner, b.Covers a
  left : ∃ a ∈ inner, a.x = b.x
  top : ∃ a ∈ inner, a.y = b.y
  right : ∃ a ∈ inner, a.right = b.right
  bottom : ∃ a ∈ inner, a.bottom = b.bottom

namespace GoesAround

variable {b c : Box K} {inner : List (Box K)}

/-- A box that goes around others is the smallest of those that cover them. -/
theorem smallest (h : b.GoesAround inner) (hc : ∀ a ∈ inner, c.Covers a) : c.Covers b := by
  obtain ⟨l, hl, hleft⟩ := h.left
  obtain ⟨t, ht, htop⟩ := h.top
  obtain ⟨r, hr, hright⟩ := h.right
  obtain ⟨u, hu, hbottom⟩ := h.bottom
  constructor
  · exact hleft ▸ (hc l hl).left
  · exact htop ▸ (hc t ht).top
  · exact hright ▸ (hc r hr).right
  · exact hbottom ▸ (hc u hu).bottom

/-- Only one box goes around others. -/
theorem unique (hb : b.GoesAround inner) (hc : c.GoesAround inner) : b = c := by
  -- each of the two covers the other one
  have hbc : b.Covers c := hc.smallest hb.covers
  have hcb : c.Covers b := hb.smallest hc.covers
  apply ext_sides
  · exact le_antisymm hbc.left hcb.left
  · exact le_antisymm hbc.top hcb.top
  · exact le_antisymm hcb.right hbc.right
  · exact le_antisymm hcb.bottom hbc.bottom

end GoesAround

/-! ## What is gathered -/

theorem Covers.refl (b : Box K) : b.Covers b := ⟨le_rfl, le_rfl, le_rfl, le_rfl⟩

/-- A box around a box is around what that is around. -/
theorem Covers.trans {a b c : Box K} (hcb : c.Covers b) (hba : b.Covers a) : c.Covers a :=
  ⟨le_trans hcb.left hba.left, le_trans hcb.top hba.top, le_trans hba.right hcb.right,
    le_trans hba.bottom hcb.bottom⟩

namespace Corners

/-- The box between two corners. -/
def toBox (c : Corners K) : Box K := ⟨c.left, c.top, c.right - c.left, c.bottom - c.top⟩

theorem right_toBox (c : Corners K) : c.toBox.right = c.right := add_sub_cancel c.left c.right

theorem bottom_toBox (c : Corners K) : c.toBox.bottom = c.bottom := add_sub_cancel c.top c.bottom

/-- Between the corners of a node is its box, of the usual size if it has none. -/
theorem toBox_ofNode (n : Node K) : (ofNode n).toBox = n.box .standard := by
  apply ext_sides
  · rfl
  · rfl
  · exact right_toBox (ofNode n)
  · exact bottom_toBox (ofNode n)

/-- Corners that are joined are around the first ones. -/
theorem toBox_join_covers_left (c d : Corners K) : (join c d).toBox.Covers c.toBox where
  left := min_le_left _ _
  top := min_le_left _ _
  right := by
    rw [right_toBox, right_toBox]
    exact le_max_left _ _
  bottom := by
    rw [bottom_toBox, bottom_toBox]
    exact le_max_left _ _

/-- Corners that are joined are around the second ones. -/
theorem toBox_join_covers_right (c d : Corners K) : (join c d).toBox.Covers d.toBox where
  left := min_le_right _ _
  top := min_le_right _ _
  right := by
    rw [right_toBox, right_toBox]
    exact le_max_right _ _
  bottom := by
    rw [bottom_toBox, bottom_toBox]
    exact le_max_right _ _

/-- What comes out covers all that is gathered. -/
theorem toBox_foldl_covers (cs : List (Corners K)) : ∀ start : Corners K,
    ∀ c ∈ start :: cs, (cs.foldl join start).toBox.Covers c.toBox := by
  induction cs with
  | nil =>
    intro start c hc
    obtain rfl := List.mem_singleton.mp hc
    exact .refl _
  | cons d cs ih =>
    intro start c hc
    rw [List.foldl_cons]
    have hjoin := ih (join start d) _ (.head _)
    rcases List.mem_cons.mp hc with rfl | hc
    · exact hjoin.trans (toBox_join_covers_left c d)
    rcases List.mem_cons.mp hc with rfl | hc
    · exact hjoin.trans (toBox_join_covers_right start c)
    · exact ih _ c (.tail _ hc)

/-- A side that two things joined have from one of them is had from one of all gathered. -/
theorem side_toBox_foldl (side : Box K → K)
    (hside : ∀ c d : Corners K,
      side (join c d).toBox = side c.toBox ∨ side (join c d).toBox = side d.toBox)
    (cs : List (Corners K)) : ∀ start : Corners K,
    ∃ b ∈ (start :: cs).map toBox, side b = side (cs.foldl join start).toBox := by
  induction cs with
  | nil => exact fun start => ⟨start.toBox, .head _, rfl⟩
  | cons d cs ih =>
    intro start
    obtain ⟨b, hb, heq⟩ := ih (join start d)
    rcases List.mem_cons.mp hb with rfl | hb
    -- the side is that of the first two joined, and so that of one of them
    · rcases hside start d with h | h
      · exact ⟨start.toBox, .head _, h.symm.trans heq⟩
      · exact ⟨d.toBox, .tail _ (.head _), h.symm.trans heq⟩
    · exact ⟨b, .tail _ (.tail _ hb), heq⟩

/-- What comes out goes around all that is gathered. -/
theorem toBox_foldl_goesAround (start : Corners K) (cs : List (Corners K)) :
    (cs.foldl join start).toBox.GoesAround ((start :: cs).map toBox) where
  covers := List.forall_mem_map.mpr (toBox_foldl_covers cs start)
  left := side_toBox_foldl Box.x (fun c d => min_choice c.left d.left) cs start
  top := side_toBox_foldl Box.y (fun c d => min_choice c.top d.top) cs start
  right := by
    apply side_toBox_foldl
    intro c d
    rw [right_toBox, right_toBox, right_toBox]
    exact max_choice c.right d.right
  bottom := by
    apply side_toBox_foldl
    intro c d
    rw [bottom_toBox, bottom_toBox, bottom_toBox]
    exact max_choice c.bottom d.bottom

end Corners

/-- The box around nodes goes around their boxes. -/
theorem around_goesAround {ns : List (Node K)} (hne : ns ≠ []) :
    (around ns).GoesAround (ns.map (Node.box .standard)) := by
  obtain ⟨n, rest, rfl⟩ := List.exists_cons_of_ne_nil hne
  -- the boxes of the nodes are those between their corners, which the pass gathers
  have hboxes : ((n :: rest).map Corners.ofNode).map Corners.toBox
      = (n :: rest).map (Node.box .standard) := by
    rw [List.map_map]
    exact List.map_congr_left fun m _ => Corners.toBox_ofNode m
  rw [← hboxes]
  exact Corners.toBox_foldl_goesAround (.ofNode n) (rest.map .ofNode)

/-! ## What moves along -/

section Moving

variable {b c : Box K} {inner : List (Box K)}

theorem Covers.shifted [IsStrictOrderedRing K] (h : b.Covers c) (way : Position K) :
    (b.shifted way).Covers (c.shifted way) where
  left := add_le_add_left h.left way.x
  top := add_le_add_left h.top way.y
  right := by
    rw [right_shifted, right_shifted]
    exact add_le_add_left h.right way.x
  bottom := by
    rw [bottom_shifted, bottom_shifted]
    exact add_le_add_left h.bottom way.y

/-- A side that moves along is still touched. -/
theorem touched_shifted {side : Box K → K} {way : Position K} {step : K}
    (hside : ∀ a : Box K, side (a.shifted way) = side a + step)
    (h : ∃ a ∈ inner, side a = side b) :
    ∃ a ∈ inner.map (shifted way), side a = side (b.shifted way) := by
  obtain ⟨a, ha, heq⟩ := h
  refine ⟨a.shifted way, List.mem_map_of_mem ha, ?_⟩
  rw [hside, hside, heq]

/-- A box still goes around others if all of them move the same way. -/
theorem GoesAround.shifted [IsStrictOrderedRing K] (h : b.GoesAround inner) (way : Position K) :
    (b.shifted way).GoesAround (inner.map (Box.shifted way)) where
  covers := List.forall_mem_map.mpr fun a ha => (h.covers a ha).shifted way
  left := touched_shifted (fun _ => rfl) h.left
  top := touched_shifted (fun _ => rfl) h.top
  right := touched_shifted (right_shifted way) h.right
  bottom := touched_shifted (bottom_shifted way) h.bottom

end Moving

end Box

section Centering

open CallAtlas.Measure

variable {K : Type} [Field K] [LinearOrder K]

/-- A position moved by a way. -/
def Position.shifted (p way : Position K) : Position K := ⟨p.x + way.x, p.y + way.y⟩

/-- A node moved by a way. All but its position stays. -/
def Node.shifted (way : Position K) (n : Node K) : Node K :=
  { n with position := n.position.shifted way }

namespace Box

/-- The way from the middle of the box around some nodes to that of another box. -/
def wayTo (target : Box K) (ns : List (Node K)) : Position K :=
  ⟨target.center.x - (around ns).center.x, target.center.y - (around ns).center.y⟩

/-- All nodes are moved the same way. -/
theorem centered_eq (ns : List (Node K)) (target : Box K) :
    centered ns target = ns.map (Node.shifted (target.wayTo ns)) := rfl

/-- The middle of a box moves along with it. -/
theorem center_shifted (way : Position K) (b : Box K) :
    (b.shifted way).center = b.center.shifted way :=
  congrArg₂ Position.mk (add_right_comm b.x way.x (half b.width))
    (add_right_comm b.y way.y (half b.height))

/-- Nodes that have their middle where it should be are left where they are. -/
theorem centered_of_center {ns : List (Node K)} {target : Box K}
    (h : (around ns).center = target.center) : centered ns target = ns := by
  rw [centered_eq]
  have hstay : ∀ n ∈ ns, n.shifted (target.wayTo ns) = id n := by
    intro n _
    have hway : target.wayTo ns = ⟨0, 0⟩ :=
      congrArg₂ Position.mk (sub_eq_zero.mpr (congrArg Position.x h.symm))
        (sub_eq_zero.mpr (congrArg Position.y h.symm))
    rw [hway, Node.shifted, Position.shifted, add_zero, add_zero]
    rfl
  rw [List.map_congr_left hstay, List.map_id]

variable [IsStrictOrderedRing K]

/-- The box around nodes moves along with them. -/
theorem around_map_shifted {ns : List (Node K)} (hne : ns ≠ []) (way : Position K) :
    around (ns.map (Node.shifted way)) = (around ns).shifted way := by
  have hmoved : (ns.map (Node.shifted way)).map (Node.box .standard)
      = (ns.map (Node.box .standard)).map (Box.shifted way) := by
    rw [List.map_map, List.map_map]
    rfl
  have hne' : ns.map (Node.shifted way) ≠ [] := fun h => hne (List.map_eq_nil_iff.mp h)
  -- both boxes go around the boxes of the nodes that moved
  apply GoesAround.unique (around_goesAround hne')
  rw [hmoved]
  exact (around_goesAround hne).shifted way

/-- Nodes that are centered have their middle where it should be. -/
theorem center_around_centered {ns : List (Node K)} (hne : ns ≠ []) (target : Box K) :
    (around (centered ns target)).center = target.center := by
  rw [centered_eq, around_map_shifted hne, center_shifted]
  exact congrArg₂ Position.mk (add_sub_cancel _ _) (add_sub_cancel _ _)

/-- The box around some nodes covers the box of each, of the usual size where a node has none,
and each of its sides is that of one. Centering moves all nodes by one way and changes nothing
else; the box around them has its middle where that of the other box is; and to center them
once more moves none. -/
theorem centered_spec {ns : List (Node K)} (hne : ns ≠ []) (target : Box K) :
    (around ns).GoesAround (ns.map (Node.box .standard)) ∧
      (∃ way, centered ns target = ns.map (Node.shifted way)) ∧
      (around (centered ns target)).center = target.center ∧
      centered (centered ns target) target = centered ns target := by
  have hcenter := center_around_centered hne target
  exact ⟨around_goesAround hne, ⟨target.wayTo ns, centered_eq ns target⟩, hcenter,
    centered_of_center hcenter⟩

/-- A node without a size, above and to the left of the origin, and a header that is turned
over. -/
def strayPair : List (Node ℚ) :=
  let node (id : String) (role : NodeRole) : Node ℚ := .ofFunction id role (.named id) 1 .simple
  [{ node "f" .function with position := ⟨-100, -50⟩ },
    { node "async" .header with
      position := ⟨200, 0⟩, width := some 100, height := some (-20) }]

theorem centered_spec_strayPair :
    let window : Box ℚ := ⟨0, 0, 1000, 800⟩
    strayPair ≠ [] ∧ (around strayPair = ⟨-100, -50, 400, 80⟩ ∧
      (around strayPair).GoesAround (strayPair.map (Node.box .standard))) ∧
      (centered strayPair window).map (·.position) = [⟨300, 360⟩, ⟨600, 410⟩] ∧
      (around (centered strayPair window)).center = ⟨500, 400⟩ ∧
      centered (centered strayPair window) window = centered strayPair window := by
  intro window
  have hne : strayPair ≠ [] := List.cons_ne_nil _ _
  obtain ⟨haround, -, hcenter, htwice⟩ := centered_spec hne window
  have hbox : around strayPair = ⟨-100, -50, 400, 80⟩ := by decide +kernel
  have hplaces : (centered strayPair window).map (·.position) = [⟨300, 360⟩, ⟨600, 410⟩] := by
    decide +kernel
  have hmiddle : window.center = ⟨500, 400⟩ := by decide +kernel
  exact ⟨hne, ⟨hbox, haround⟩, hplaces, hcenter.trans hmiddle, htwice⟩

end Box

end Centering

end CallAtlas
