import CallAtlas.Layout.Placement
import CallAtlas.Proofs.GraphBuilding
import CallAtlas.Proofs.GridGroups

/-!
# Layouts keep the nodes of a graph

Whatever the arrangement and the settings, a layout gives the nodes that are no headers
other sizes and positions and changes nothing else of them: it neither drops one nor
changes their order. Behind them stand the headers of a grid, whose ids are different
(`nodes_placed`). All arrangements have one position for each node, so that none is lost
where nodes and positions are put side by side. Where positions are told one after the other
each gets to its node (`Layout.moved_of_placed`).
-/

namespace CallAtlas

variable {α : Type}

/-- A node without its place and size. -/
def Node.unplaced [Measure α] (n : Node α) : Node α :=
  { n with position := .origin, width := none, height := none }

/-! ## One position for each node -/

section Positions

/-- Putting positions into an array makes it no longer. -/
theorem size_foldl_setIfInBounds {β : Type} :
    ∀ (xs : List (Nat × β)) (at_ : Array β),
      (xs.foldl (fun (at_ : Array β) (n, p) => at_.setIfInBounds n p) at_).size = at_.size := by
  intro xs
  induction xs with
  | nil => intro at_; rfl
  | cons x xs ih =>
    intro at_
    rw [List.foldl_cons, ih, Array.size_setIfInBounds]

/-- A place that is written once keeps what is written there. -/
theorem getElem?_foldl_setIfInBounds {β : Type} {i : Nat} {p : β} :
    ∀ (xs : List (Nat × β)) (at_ : Array β), (xs.map Prod.fst).Nodup → i < at_.size →
      ((i, p) ∈ xs ∨ (i ∉ xs.map Prod.fst ∧ at_[i]? = some p)) →
      (xs.foldl (fun (at_ : Array β) (n, p) => at_.setIfInBounds n p) at_)[i]? = some p := by
  intro xs
  induction xs with
  | nil => intro at_ _ _ h; exact (h.resolve_left List.not_mem_nil).2
  | cons x xs ih =>
    intro at_ hnodup hi h
    obtain ⟨hx, hxs⟩ := List.nodup_cons.mp hnodup
    rw [List.foldl_cons]
    refine ih _ hxs (by rwa [Array.size_setIfInBounds]) ?_
    rcases h with hmem | ⟨hnot, hp⟩
    · rcases List.mem_cons.mp hmem with rfl | hmem
      · refine .inr ⟨hx, ?_⟩
        rw [Array.getElem?_setIfInBounds, if_pos rfl, if_pos hi]
      · exact .inl hmem
    · obtain ⟨hne, hrest⟩ := not_or.mp fun h => hnot (List.mem_cons.mpr h)
      refine .inr ⟨hrest, ?_⟩
      rw [Array.getElem?_setIfInBounds, if_neg fun heq => hne heq.symm, hp]

/-- Positions that are told for every node in turn, in whatever order, get to the nodes. -/
theorem getElem?_of_placed {β : Type} {xs : List (Nat × β)} {count i : Nat} {p d : β}
    (hperm : (xs.map Prod.fst).Perm (List.range count)) (h : (i, p) ∈ xs) :
    (xs.foldl (fun (at_ : Array β) (n, p) => at_.setIfInBounds n p)
      (Array.replicate count d)).toList[i]? = some p := by
  have hi : i < count := List.mem_range.mp (hperm.mem_iff.mp (List.mem_map_of_mem h))
  rw [Array.getElem?_toList]
  exact getElem?_foldl_setIfInBounds xs _ (hperm.nodup_iff.mpr List.nodup_range)
    (Array.size_replicate.symm ▸ hi) (.inl h)

/-- If each entry of a list is related to all entries behind it, then of any two of them one
is related to the other. -/
theorem rel_or_rel {β : Type} {R : β → β → Prop} {xs : List β} (h : xs.Pairwise R) {x y : β}
    (hx : x ∈ xs) (hy : y ∈ xs) (hne : x ≠ y) : R x y ∨ R y x := by
  have hsymm : Std.Symm fun x y => R x y ∨ R y x := ⟨fun _ _ h => h.symm⟩
  have heither : xs.Pairwise fun x y => R x y ∨ R y x := h.imp Or.inl
  exact heither.forall hx hy hne

/-- Layers have a position for each node. -/
theorem Hierarchical.length_positions [Measure α] (s : LayoutSettings α) (nodes : List (Node α))
    (edges : List Edge) : (positions s nodes edges).length = nodes.length := by
  unfold positions
  rw [Array.length_toList, size_foldl_setIfInBounds, Array.size_replicate]

theorem Grid.length_positions [Measure α] (count : Nat) (sections : List (Section α)) :
    (positions count sections).length = count := by
  unfold positions
  rw [Array.length_toList, size_foldl_setIfInBounds, Array.size_replicate]

theorem Circle.length_positions [AngularMeasure α] (s : LayoutSettings α)
    (nodes : List (Node α)) : (positions s nodes).length = nodes.length := by
  simp only [positions, List.length_map, List.length_zipIdx]

end Positions

namespace Layout

/-- A node that is moved gets the position that is told for it, and nothing else changes. -/
theorem moved_of_placed {ns : List (Node α)} {xs : List (Nat × Position α)} {d : Position α}
    (hperm : (xs.map Prod.fst).Perm (List.range ns.length)) {i : Nat} {a : Node α}
    (h : (moved ns (xs.foldl (fun (at_ : Array (Position α)) (n, p) => at_.setIfInBounds n p)
      (Array.replicate ns.length d)).toList)[i]? = some a) :
    ∃ n, ns[i]? = some n ∧ (i, a.position) ∈ xs ∧ a = { n with position := a.position } := by
  obtain ⟨n, q, hn, hq, rfl⟩ := List.getElem?_zipWith_eq_some.mp h
  have hi : i ∈ List.range ns.length := List.mem_range.mpr (List.getElem?_eq_some_iff.mp hn).1
  obtain ⟨⟨j, p⟩, hp, rfl⟩ := List.mem_map.mp (hperm.mem_iff.mpr hi)
  obtain rfl : p = q := Option.some.inj ((getElem?_of_placed hperm hp).symm.trans hq)
  exact ⟨n, hn, hp, rfl⟩

/-- What holds of all positions that are told holds of all nodes that are moved. -/
theorem forall_moved_iff {ns : List (Node α)} {xs : List (Nat × Position α)} {d : Position α}
    (hperm : (xs.map Prod.fst).Perm (List.range ns.length)) (P : Position α → Prop) :
    (∀ a ∈ moved ns (xs.foldl (fun (at_ : Array (Position α)) (n, p) => at_.setIfInBounds n p)
      (Array.replicate ns.length d)).toList, P a.position) ↔ ∀ x ∈ xs, P x.2 := by
  constructor
  · rintro h ⟨i, p⟩ hx
    have hi : i < ns.length := List.mem_range.mp (hperm.mem_iff.mp (List.mem_map_of_mem hx))
    refine h { ns[i] with position := p } (List.mem_of_getElem? (i := i) ?_)
    exact List.getElem?_zipWith_eq_some.mpr
      ⟨ns[i], p, List.getElem?_eq_getElem hi, getElem?_of_placed hperm hx, rfl⟩
  · intro h a ha
    obtain ⟨i, hi⟩ := List.mem_iff_getElem?.mp ha
    obtain ⟨-, -, hx, -⟩ := moved_of_placed hperm hi
    exact h _ hx

/-- The headers that a layout adds: all are headers, and their ids are different. -/
structure Headers (hs : List (Node α)) : Prop where
  isHeader : ∀ h ∈ hs, h.isHeader = true
  begins : ∀ h ∈ hs, ∃ rest, h.id = "header-" ++ rest
  nodup : (hs.map Node.id).Nodup

theorem headers_nil : Headers ([] : List (Node α)) where
  isHeader := fun _ h => absurd h List.not_mem_nil
  begins := fun _ h => absurd h List.not_mem_nil
  nodup := List.nodup_nil

/-! ## What stays of a node -/

section Unplaced

variable [Measure α]

/-- Nodes that are moved change in nothing but their places, and none is lost if there is a
position for each. -/
theorem moved_unplaced {nodes : List (Node α)} {positions : List (Position α)}
    (h : positions.length = nodes.length) :
    (moved nodes positions).map Node.unplaced = nodes.map Node.unplaced := by
  refine map_zipWith_left ?_ nodes positions h.symm
  intro n p
  rfl

/-- A node that is given its size is the same but for its size. -/
theorem sized_unplaced (s : LayoutSettings α) (n : Node α) :
    (sized s n).unplaced = n.unplaced := rfl

theorem map_sized_unplaced (s : LayoutSettings α) (ns : List (Node α)) :
    (ns.map (sized s)).map Node.unplaced = ns.map Node.unplaced := by
  rw [List.map_map]
  exact List.map_congr_left fun n _ => sized_unplaced s n

/-- A node that is given a finite place is the same but for its place. -/
theorem grounded_unplaced (n : Node α) : (grounded n).unplaced = n.unplaced := by
  unfold grounded
  split <;> rfl

theorem grounded_id (n : Node α) : (grounded n).id = n.id := by
  unfold grounded
  split <;> rfl

theorem grounded_isHeader (n : Node α) : (grounded n).isHeader = n.isHeader := by
  unfold grounded
  split <;> rfl

/-- Nodes that are the same but for place and size have the same properties. -/
theorem map_eq_of_unplaced {β : Type} {f : Node α → β} (hf : ∀ n, f n.unplaced = f n)
    {ns ms : List (Node α)} (h : ns.map Node.unplaced = ms.map Node.unplaced) :
    ns.map f = ms.map f := by
  have hmap := congrArg (List.map f) h
  rw [List.map_map, List.map_map] at hmap
  rwa [show f ∘ Node.unplaced = f from funext hf] at hmap

/-- Whether a node is a header is something that a layout does not change. -/
theorem not_header_of_unplaced {ns shown : List (Node α)}
    (h : shown.map Node.unplaced = (ns.filter (!·.isHeader)).map Node.unplaced) :
    ∀ n ∈ shown, n.isHeader = false := by
  intro n hn
  have hmem : n.unplaced ∈ (ns.filter (!·.isHeader)).map Node.unplaced :=
    h ▸ List.mem_map_of_mem hn
  obtain ⟨m, hm, heq⟩ := List.mem_map.mp hmem
  have hrole : n.isHeader = m.isHeader := (congrArg Node.isHeader heq).symm
  rw [hrole]
  simpa using (List.mem_filter.mp hm).2

/-- The headers of a grid are headers: each group has one section, so their ids differ. -/
theorem headers_sectionsOf (s : LayoutSettings α) (nodes : List (Node α)) :
    Headers ((Grid.sectionsOf s nodes).map Grid.Section.header) where
  isHeader := fun h hmem => by
    obtain ⟨g, count, y, rfl⟩ := Grid.sections_header _ _ _ hmem
    rfl
  begins := fun h hmem => by
    obtain ⟨g, count, y, rfl⟩ := Grid.sections_header _ _ _ hmem
    exact ⟨g.slug, rfl⟩
  nodup := by
    rw [List.map_map]
    exact Grid.sections_ids_nodup _ _ nodes

/-- They are still headers when they are given finite places. -/
theorem headers_grounded {hs : List (Node α)} (h : Headers hs) : Headers (hs.map grounded) where
  isHeader := fun n hmem => by
    obtain ⟨m, hm, rfl⟩ := List.mem_map.mp hmem
    rw [grounded_isHeader]
    exact h.isHeader m hm
  begins := fun n hmem => by
    obtain ⟨m, hm, rfl⟩ := List.mem_map.mp hmem
    rw [grounded_id]
    exact h.begins m hm
  nodup := by
    rw [List.map_map, show Node.id ∘ grounded = (Node.id : Node α → String) from
      funext grounded_id]
    exact h.nodup

end Unplaced

/-! ## What a layout makes of the nodes -/

variable [AngularMeasure α]

/-- The nodes of `ns` in other places and, behind them, headers. -/
def Placed (ns out : List (Node α)) : Prop :=
  ∃ shown headers, out = shown ++ headers ∧ shown.map Node.unplaced = ns.map Node.unplaced ∧
    Headers headers

/-- Every arrangement leaves the nodes as they are but for their places, and adds headers at
most. -/
theorem arranged_placed (s : LayoutSettings α) (ns : List (Node α)) (es : List Edge) :
    Placed ns (arranged s ns es) := by
  unfold arranged
  split
  · exact ⟨_, [], (List.append_nil _).symm,
      moved_unplaced (Hierarchical.length_positions s ns es), headers_nil⟩
  · exact ⟨_, _, rfl, moved_unplaced (Grid.length_positions _ _), headers_sectionsOf s ns⟩
  · exact ⟨_, [], (List.append_nil _).symm, moved_unplaced (Circle.length_positions s ns),
      headers_nil⟩

/-- All nodes stay as they are but for their places when these are made finite. -/
theorem placed_grounded {ns out : List (Node α)} (h : Placed ns out) :
    Placed ns (out.map grounded) := by
  obtain ⟨shown, headers, rfl, hshown, hheaders⟩ := h
  refine ⟨shown.map grounded, headers.map grounded, List.map_append, ?_,
    headers_grounded hheaders⟩
  rw [List.map_map, ← hshown]
  exact List.map_congr_left fun n _ => grounded_unplaced n

/-- **A layout keeps all nodes that are no headers**, and has new headers behind them. -/
theorem nodes_placed (s : LayoutSettings α) (ns : List (Node α)) (es : List Edge) :
    Placed (ns.filter (!·.isHeader)) (nodes s ns es) := by
  rw [Placed, ← map_sized_unplaced s (ns.filter (!·.isHeader))]
  unfold nodes
  split
  · next hnone => exact ⟨[], [], rfl, by rw [hnone], headers_nil⟩
  · next n hone => exact ⟨_, [], (List.append_nil _).symm, by rw [hone]; rfl, headers_nil⟩
  · exact placed_grounded (arranged_placed s _ es)

/-- The nodes without headers are the same before and after a layout, but for their
places and sizes. -/
theorem graph_functionNodes (s : LayoutSettings α) (g : CallGraph α) :
    (graph s g).functionNodes.map Node.unplaced = g.functionNodes.map Node.unplaced := by
  obtain ⟨shown, headers, hnodes, hshown, hheaders⟩ := nodes_placed s g.nodes g.edges
  have hkept : shown.filter (!·.isHeader) = shown :=
    List.filter_eq_self.mpr fun n hn => by rw [not_header_of_unplaced hshown n hn]; rfl
  have hdropped : headers.filter (!·.isHeader) = [] :=
    List.filter_eq_nil_iff.mpr fun n hn => by rw [hheaders.isHeader n hn]; decide
  rw [CallGraph.functionNodes, graph, hnodes, List.filter_append, hkept, hdropped,
    List.append_nil, hshown]
  rfl

end Layout

end CallAtlas
