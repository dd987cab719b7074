import CallAtlas.Proofs.Placement

/-!
# Layouts start afresh

A layout reads nothing of an earlier one. Sizes are reckoned from the function that a node
shows (`sized_eq_of_unplaced`), and each arrangement takes from the nodes no more than
their ids, functions and new sizes: moving all of them to the origin beforehand gives it
the same positions (`arranged_map_rooted`). So a layout is decided by the nodes of
functions without their places and sizes (`nodes_eq_of_unplaced`). As it keeps just
that much of every node, a second layout gives what it would have given at once
(`nodes_relayout`).
-/

namespace CallAtlas

variable {α : Type}

/-- A node at the origin. -/
def Node.rooted [Measure α] (n : Node α) : Node α := { n with position := .origin }

/-! ## Positions do not depend on positions -/

section Positions

/-- The numbers of nodes are found by their ids, wherever they are. -/
theorem Hierarchical.indexOf_map_rooted [Measure α] (ns : List (Node α)) :
    indexOf (ns.map Node.rooted) = indexOf ns := by
  unfold indexOf
  rw [List.zipIdx_map, List.foldl_map]
  rfl

/-- Layers read no earlier positions. -/
theorem Hierarchical.positions_map_rooted [Measure α] (s : LayoutSettings α)
    (ns : List (Node α)) (es : List Edge) :
    positions s (ns.map Node.rooted) es = positions s ns es := by
  have hgraph : digraph (ns.map Node.rooted) es = digraph ns es := by
    unfold digraph joined
    rw [indexOf_map_rooted, List.length_map]
  have hlayers : layers (ns.map Node.rooted) es = layers ns es := by
    unfold layers ranks acyclic
    rw [hgraph]
  have hextents : (ns.map Node.rooted).map (extentOf s) = ns.map (extentOf s) := by
    rw [List.map_map]
    rfl
  unfold positions rowsOf
  rw [hlayers, hextents, List.length_map]

theorem Grid.sectionsOf_map_rooted [Measure α] (s : LayoutSettings α) (ns : List (Node α)) :
    sectionsOf s (ns.map Node.rooted) = sectionsOf s ns := by
  have hmembers : members (ns.map Node.rooted) = members ns := by
    unfold members
    rw [List.zipIdx_map, List.map_map]
    rfl
  have hmesh : Mesh.ofNodes s (ns.map Node.rooted) = Mesh.ofNodes s ns := by
    unfold Mesh.ofNodes
    rw [List.map_map]
    rfl
  unfold sectionsOf
  rw [hmembers, hmesh]

theorem Circle.positions_map_rooted [AngularMeasure α] (s : LayoutSettings α)
    (ns : List (Node α)) : positions s (ns.map Node.rooted) = positions s ns := by
  have hsizes : (ns.map Node.rooted).map (NodeSize.current s) = ns.map (NodeSize.current s) := by
    rw [List.map_map]
    rfl
  unfold positions
  rw [hsizes, List.length_map]

end Positions

namespace Layout

/-! ## What a layout reads -/

section Reads

variable [Measure α]

/-- Nodes that are moved forget where they were. -/
theorem moved_map_rooted (ns : List (Node α)) (ps : List (Position α)) :
    moved (ns.map Node.rooted) ps = moved ns ps := by
  unfold moved
  rw [List.zipWith_map_left]
  rfl

/-- The size of a node is reckoned without its old one. -/
theorem sized_eq_of_unplaced (s : LayoutSettings α) {n m : Node α}
    (h : n.unplaced = m.unplaced) : (sized s n).rooted = (sized s m).rooted := by
  have hsize : ∀ k : Node α, (sized s k).rooted = (sized s k.unplaced).rooted := fun _ => rfl
  rw [hsize n, hsize m, h]

end Reads

variable [AngularMeasure α]

/-- So no arrangement depends on where the nodes are. -/
theorem arranged_map_rooted (s : LayoutSettings α) (ns : List (Node α)) (es : List Edge) :
    arranged s (ns.map Node.rooted) es = arranged s ns es := by
  simp only [arranged, List.length_map, moved_map_rooted, Hierarchical.positions_map_rooted,
    Grid.sectionsOf_map_rooted, Circle.positions_map_rooted]

/-- What is made of nodes that have their sizes. -/
def placed (s : LayoutSettings α) (shown : List (Node α)) (es : List Edge) : List (Node α) :=
  match shown with
  | [] => []
  | [n] => [{ n with position := alone }]
  | shown => (arranged s shown es).map grounded

/-- A layout leaves the headers out, gives the other nodes their sizes and then their places. -/
theorem nodes_eq_placed (s : LayoutSettings α) (ns : List (Node α)) (es : List Edge) :
    nodes s ns es = placed s ((ns.filter (!·.isHeader)).map (sized s)) es := rfl

/-- On every way out of a layout the old positions are written over. -/
theorem placed_map_rooted (s : LayoutSettings α) (shown : List (Node α)) (es : List Edge) :
    placed s (shown.map Node.rooted) es = placed s shown es := by
  match shown with
  | [] => rfl
  | [n] => rfl
  | n :: m :: rest =>
    exact congrArg (List.map grounded) (arranged_map_rooted s (n :: m :: rest) es)

/-- A layout is decided by the nodes of functions without their places and sizes. -/
theorem nodes_eq_of_unplaced (s : LayoutSettings α) {ns ms : List (Node α)} (es : List Edge)
    (h : (ns.filter (!·.isHeader)).map Node.unplaced =
      (ms.filter (!·.isHeader)).map Node.unplaced) :
    nodes s ns es = nodes s ms es := by
  -- what stays of a node decides its new size, and the old position is not read
  have hsized : ∀ ks : List (Node α), (ks.map (sized s)).map Node.rooted =
      (ks.map Node.unplaced).map fun k => (sized s k).rooted := by
    intro ks
    rw [List.map_map, List.map_map]
    exact List.map_congr_left fun k _ => sized_eq_of_unplaced s rfl
  rw [nodes_eq_placed, nodes_eq_placed, ← placed_map_rooted, hsized, h, ← hsized,
    placed_map_rooted]

/-! ## Two layouts one after the other -/

/-- **A layout is a new one whatever was laid out before.** Laying out what another layout
gave is laying out the nodes as they were; nodes that agree but for places, sizes and
headers are laid out alike; and what comes out are the nodes of functions in their order,
with nothing but places and sizes changed, and headers behind them. -/
theorem nodes_relayout (s t : LayoutSettings α) (ns : List (Node α)) (es : List Edge) :
    nodes t (nodes s ns es) es = nodes t ns es ∧
    (∀ ms : List (Node α), (ms.filter (!·.isHeader)).map Node.unplaced =
      (ns.filter (!·.isHeader)).map Node.unplaced → nodes t ms es = nodes t ns es) ∧
    ∃ shown headers, nodes t ns es = shown ++ headers ∧
      shown.map Node.unplaced = (ns.filter (!·.isHeader)).map Node.unplaced ∧
      (∀ n ∈ shown, n.isHeader = false) ∧ ∀ h ∈ headers, h.isHeader = true := by
  refine ⟨nodes_eq_of_unplaced t es (graph_functionNodes s ⟨ns, es⟩),
    fun ms hms => nodes_eq_of_unplaced t es hms, ?_⟩
  obtain ⟨shown, headers, hnodes, hshown, hheaders⟩ := nodes_placed t ns es
  exact ⟨shown, headers, hnodes, hshown, not_header_of_unplaced hshown, hheaders.isHeader⟩

end Layout

end CallAtlas
