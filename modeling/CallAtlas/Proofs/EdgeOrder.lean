import CallAtlas.Layout.Placement
import CallAtlas.Proofs.Ranks

/-!
# Layers do not depend on the order of edges

Two lists of edges between the same pairs of ids make graphs with the same edges, where only the
successors of a number are listed in another order (`Digraph.Alike`). Without cycles nothing is
turned around, whatever order a search takes. Then ranks are lengths of longest ways, of which a
way is the same in both graphs (`ranks_eq_of_alike`). And when layers are ordered, neighbours
are only counted and their places summed up (`meanSlot_of_alike`), so every sweep does the same
for both (`ofDigraph_of_alike`). Hence all nodes get the same positions
(`Layout.nodes_of_same_ends`).
-/

namespace CallAtlas

theorem Number.total_of_perm {xs ys : List Nat} (h : xs.Perm ys) : total xs = total ys := by
  induction h with
  | nil => rfl
  | cons x _ ih => rw [total, total, ih]
  | swap x y xs => simp only [total]; omega
  | trans _ _ ih ih' => exact ih.trans ih'

namespace Digraph

/-! ## Graphs with the same edges -/

/-- Two graphs with the same edges, which need not be listed in one order. -/
structure Alike (g h : Digraph) : Prop where
  size : g.size = h.size
  next : ∀ u, (g.next u).Perm (h.next u)

variable {g h : Digraph}

/-- Graphs that are alike have the same arrows. -/
theorem Alike.arrow_iff (ha : g.Alike h) {u v : Nat} : g.Arrow u v ↔ h.Arrow u v :=
  (ha.next u).mem_iff

/-- An edge is added only if it is not there. -/
theorem nodup_link (hg : ∀ u, (g.next u).Nodup) (edge : Nat × Nat) (u : Nat) :
    ((g.link edge).next u).Nodup := by
  have hu := hg u
  unfold next at hu
  unfold next link
  rw [Array.getD_eq_getD_getElem?] at hu ⊢
  rw [Array.getElem?_modify]
  by_cases he : edge.1 = u
  · rw [if_pos he]
    cases hnext : g.successors[u]? with
    | none => exact List.nodup_nil
    | some vs =>
      rw [hnext] at hu
      show (if vs.contains edge.2 then vs else edge.2 :: vs).Nodup
      split
      · exact hu
      · next hnew =>
        exact List.nodup_cons.mpr ⟨fun hmem => hnew (List.contains_iff_mem.mpr hmem), hu⟩
  · rw [if_neg he]
    exact hu

/-- However many edges are added, no successor is listed twice. -/
theorem nodup_foldl_link : ∀ (es : List (Nat × Nat)) (g : Digraph), (∀ u, (g.next u).Nodup) →
    ∀ u, ((es.foldl link g).next u).Nodup := by
  intro es
  induction es with
  | nil => intro g hg; exact hg
  | cons e es ih => intro g hg; exact ih _ (nodup_link hg e)

theorem nodup_ofEdges (n : Nat) (es : List (Nat × Nat)) (u : Nat) :
    ((ofEdges n es).next u).Nodup := by
  refine nodup_foldl_link es (isolated n) (fun u => ?_) u
  unfold next isolated
  rw [Array.getD_eq_getD_getElem?, Array.getElem?_replicate]
  split <;> exact List.nodup_nil

/-- The same edges, however they are listed and how often, make graphs that are alike. -/
theorem alike_ofEdges {es fs : List (Nat × Nat)} (n : Nat) (hsame : ∀ e, e ∈ es ↔ e ∈ fs) :
    (ofEdges n es).Alike (ofEdges n fs) where
  size := (size_ofEdges n es).trans (size_ofEdges n fs).symm
  next := fun u => by
    refine (List.perm_ext_iff_of_nodup (nodup_ofEdges n es u) (nodup_ofEdges n fs u)).mpr ?_
    intro v
    show (ofEdges n es).Arrow u v ↔ (ofEdges n fs).Arrow u v
    rw [arrow_ofEdges_iff, arrow_ofEdges_iff, hsame]

theorem Alike.reversed (ha : g.Alike h) : g.reversed.Alike h.reversed := by
  unfold Digraph.reversed
  rw [ha.size]
  refine alike_ofEdges h.size fun e => ?_
  have hedge : ∀ e : Nat × Nat, e ∈ g.edges ↔ e ∈ h.edges := fun ⟨u, v⟩ => by
    rw [mem_edges_iff, mem_edges_iff, ha.arrow_iff]
  rw [List.mem_map, List.mem_map]
  simp only [hedge]

/-- Where there is no cycle nothing is turned around. -/
theorem unlooped_of_acyclic (hg : g.InRange) (hacyclic : g.Acyclic) : g.unlooped = g := by
  have hsome := sorted?_sorts.complete g hg hacyclic
  unfold sorted? at hsome
  unfold unlooped
  dsimp only at hsome ⊢
  split at hsome
  · next hnone => rw [if_pos hnone]
  · cases hsome

/-- A way along the edges of one graph is one along those of the other. -/
theorem Ranked.of_alike (ha : g.Alike h) {rank : Nat → Nat} (hg : g.Ranked rank) :
    h.Ranked rank where
  reached := fun v => by
    obtain ⟨p, hway, hlength⟩ := hg.reached v
    exact ⟨p, List.IsChain.imp (fun _ _ huv => ha.arrow_iff.mp huv) hway, hlength⟩
  raised := fun u v huv => hg.raised u v (ha.arrow_iff.mpr huv)

end Digraph

namespace Layers

open CallAtlas.Digraph (Alike)

variable {g h : Digraph}

/-! ## Ordering layers -/

/-- A mean counts and sums up, in whatever order. -/
theorem meanSlot_of_alike (ha : g.Alike h) (slots : Array Nat) (n : Nat) :
    meanSlot slots g n = meanSlot slots h n := by
  have hperm := ha.next n
  unfold meanSlot
  cases hg : g.next n with
  | nil =>
    rw [hg] at hperm
    rw [List.nil_perm.mp hperm]
  | cons m ms =>
    cases hh : h.next n with
    | nil =>
      rw [hg, hh] at hperm
      exact absurd hperm.length_eq (Nat.succ_ne_zero _)
    | cons m' ms' =>
      rw [hg, hh] at hperm
      dsimp only
      rw [Number.total_of_perm (hperm.map _), hperm.length_eq]

/-- So a row is ordered in the same way by graphs that are alike. -/
theorem orderRow_of_alike (ha : g.Alike h) : orderRow g = orderRow h := by
  funext l r
  unfold orderRow
  simp only [meanSlot_of_alike ha]

/-- **Layers are ordered alike** if the edges are the same. -/
theorem ofDigraph_of_alike (ha : g.Alike h) (ranks : Array Nat) :
    ofDigraph g ranks = ofDigraph h ranks := by
  unfold ofDigraph sweepUp sweepDown
  dsimp only
  rw [orderRow_of_alike ha, orderRow_of_alike ha.reversed]

end Layers

namespace Hierarchical

variable {α : Type} {nodes : List (Node α)} {es fs : List Edge}

/-! ## The graph of some nodes and edges -/

/-- The edges between different nodes make no cycle. -/
def Uncycled (nodes : List (Node α)) (edges : List Edge) : Prop :=
  ∀ i, ¬Relation.TransGen (fun i j => Joins nodes edges i j ∧ i ≠ j) i i

end Hierarchical

/-- The ids that an edge joins. -/
def Edge.ends (e : Edge) : String × String := (e.source, e.target)

namespace Hierarchical

variable {α : Type} {nodes : List (Node α)} {es fs : List Edge}

/-- Which nodes edges join depends on the ends of the edges alone. -/
theorem joins_iff_of_same_ends (hsame : ∀ p, p ∈ es.map Edge.ends ↔ p ∈ fs.map Edge.ends)
    {i j : Nat} : Joins nodes es i j ↔ Joins nodes fs i j := by
  have hjoins : ∀ edges : List Edge, Joins nodes edges i j ↔
      ∃ p ∈ edges.map Edge.ends, nodes.findIdx? (·.id == p.1) = some i ∧
        nodes.findIdx? (·.id == p.2) = some j := by
    intro edges
    simp only [List.mem_map, Joins]
    constructor
    · rintro ⟨e, he, hi, hj⟩
      exact ⟨e.ends, ⟨e, he, rfl⟩, hi, hj⟩
    · rintro ⟨p, ⟨e, he, rfl⟩, hi, hj⟩
      exact ⟨e, he, hi, hj⟩
  rw [hjoins, hjoins]
  simp only [hsame]

/-- Edges with the same ends make graphs that are alike. -/
theorem digraph_alike (hsame : ∀ p, p ∈ es.map Edge.ends ↔ p ∈ fs.map Edge.ends) :
    (digraph nodes es).Alike (digraph nodes fs) :=
  Digraph.alike_ofEdges _ fun (i, j) => by
    rw [mem_joined_iff, mem_joined_iff, joins_iff_of_same_ends hsame]

/-- Where the edges make no cycle, the graph of the nodes has none, since edges from a node to
itself are left out of it. -/
theorem digraph_acyclic (h : Uncycled nodes es) : (digraph nodes es).Acyclic := by
  intro u hu
  exact h u (hu.lift id fun i j hij => arrow_digraph_iff.mp hij)

/-- Without cycles no edge is turned around. -/
theorem acyclic_eq_digraph (h : Uncycled nodes es) : acyclic nodes es = digraph nodes es :=
  Digraph.unlooped_of_acyclic digraph_inRange (digraph_acyclic h)

/-- Whether the edges make a cycle depends on their ends alone. -/
theorem Uncycled.of_same_ends (h : Uncycled nodes es)
    (hsame : ∀ p, p ∈ es.map Edge.ends ↔ p ∈ fs.map Edge.ends) : Uncycled nodes fs := by
  intro i hi
  refine h i (hi.lift id fun i j hij => ?_)
  exact ⟨(joins_iff_of_same_ends hsame).mpr hij.1, hij.2⟩

/-- Without cycles, what layers are made from is alike for edges with the same ends. -/
theorem acyclic_alike (h : Uncycled nodes es)
    (hsame : ∀ p, p ∈ es.map Edge.ends ↔ p ∈ fs.map Edge.ends) :
    (acyclic nodes es).Alike (acyclic nodes fs) := by
  rw [acyclic_eq_digraph h, acyclic_eq_digraph (h.of_same_ends hsame)]
  exact digraph_alike hsame

/-- Without cycles, nodes have the same ranks for edges with the same ends. -/
theorem ranks_of_same_ends (h : Uncycled nodes es)
    (hsame : ∀ p, p ∈ es.map Edge.ends ↔ p ∈ fs.map Edge.ends) :
    ranks nodes es = ranks nodes fs := by
  obtain ⟨-, hsize, hranked⟩ := ranks_ranked Digraph.sorted?_sorts nodes es
  obtain ⟨-, hsize', hranked'⟩ := ranks_ranked Digraph.sorted?_sorts nodes fs
  exact (hranked.of_alike (acyclic_alike h hsame)).array_eq hranked' (hsize.trans hsize'.symm)

theorem layers_of_same_ends (h : Uncycled nodes es)
    (hsame : ∀ p, p ∈ es.map Edge.ends ↔ p ∈ fs.map Edge.ends) :
    layers nodes es = layers nodes fs := by
  unfold layers
  rw [ranks_of_same_ends h hsame, Layers.ofDigraph_of_alike (acyclic_alike h hsame)]

theorem positions_of_same_ends [Measure α] (s : LayoutSettings α) (h : Uncycled nodes es)
    (hsame : ∀ p, p ∈ es.map Edge.ends ↔ p ∈ fs.map Edge.ends) :
    positions s nodes es = positions s nodes fs := by
  unfold positions
  rw [layers_of_same_ends h hsame]

/-- Sizes do not matter for which nodes edges join. -/
theorem uncycled_map_sized [Measure α] (s : LayoutSettings α) :
    Uncycled (nodes.map (Layout.sized s)) es ↔ Uncycled nodes es := by
  have hjoins : ∀ i j, Joins (nodes.map (Layout.sized s)) es i j ↔ Joins nodes es i j := by
    intro i j
    unfold Joins
    simp only [List.findIdx?_map]
    rfl
  unfold Uncycled
  simp only [hjoins]

end Hierarchical

namespace Layout

open Hierarchical (Uncycled)

variable {α : Type} [AngularMeasure α] {ns : List (Node α)} {es fs : List Edge}

/-- **Layers do not depend on the order of edges.** If two lists of edges join the same pairs of
ids, however often and in whatever order, and the edges between different nodes make no cycle,
then every node gets the same position in layers for both lists. So a layout of any nodes is the
same for both. -/
theorem nodes_of_same_ends (s : LayoutSettings α) (ns : List (Node α)) {es fs : List Edge}
    (hsame : ∀ p, p ∈ es.map Edge.ends ↔ p ∈ fs.map Edge.ends) :
    (Uncycled ns es → Hierarchical.positions s ns es = Hierarchical.positions s ns fs) ∧
    (Uncycled (ns.filter (!·.isHeader)) es → nodes s ns es = nodes s ns fs) := by
  refine ⟨fun h => Hierarchical.positions_of_same_ends s h hsame, fun h => ?_⟩
  have hpositions := Hierarchical.positions_of_same_ends s
    ((Hierarchical.uncycled_map_sized s).mpr h) hsame
  unfold nodes
  split
  · rfl
  · rfl
  · have harranged : arranged s ((ns.filter (!·.isHeader)).map (sized s)) es =
        arranged s ((ns.filter (!·.isHeader)).map (sized s)) fs := by
      unfold arranged
      rw [hpositions]
    rw [harranged]

/-- Three functions. Earlier ones call later ones, and the last one calls itself. -/
def loader : CallGraph Float :=
  let node (id : String) : Node Float := .ofFunction id .function (.named id) 1 .simple
  let edge (source target : String) (count : Nat) : Edge :=
    ⟨source ++ target, source, target, count, false, none⟩
  ⟨[node "main", node "load", node "parse"],
    [edge "main" "load" 1, edge "main" "parse" 3, edge "load" "parse" 1, edge "parse" "parse" 2]⟩

/-- The last function calls itself, which is no cycle between different ones. -/
theorem uncycled_loader : Uncycled loader.nodes loader.edges := by
  have hup : ∀ e ∈ loader.edges, ∀ i ∈ loader.nodes.findIdx? (·.id == e.source),
      ∀ j ∈ loader.nodes.findIdx? (·.id == e.target), i ≤ j := by decide
  intro i hi
  have hlt : Relation.TransGen (· < ·) i i := hi.lift id fun i j hij => by
    obtain ⟨⟨e, he, hsource, htarget⟩, hne⟩ := hij
    exact lt_of_le_of_ne (hup e he i hsource j htarget) hne
  rw [Relation.transGen_eq_self] at hlt
  exact lt_irrefl i hlt

theorem nodes_of_same_ends_loader :
    let s : LayoutSettings Float :=
      { LayoutSettings.standard with arrangement := some .hierarchical }
    let again := loader.edges.map fun e => { e with callCount := e.callCount + 1 }
    let turned := loader.edges.reverse ++ again
    (∀ p, p ∈ loader.edges.map Edge.ends ↔ p ∈ turned.map Edge.ends) ∧
    Uncycled loader.nodes loader.edges ∧
    Uncycled (loader.nodes.filter (!·.isHeader)) loader.edges ∧
    Hierarchical.positions s loader.nodes loader.edges =
      Hierarchical.positions s loader.nodes turned ∧
    nodes s loader.nodes loader.edges = nodes s loader.nodes turned := by
  intro s again turned
  have hagain : again.map Edge.ends = loader.edges.map Edge.ends := List.map_map
  have hsame : ∀ p, p ∈ loader.edges.map Edge.ends ↔ p ∈ turned.map Edge.ends := by
    intro p
    rw [List.map_append, List.mem_append, List.map_reverse, List.mem_reverse, hagain, or_self]
  obtain ⟨hpositions, hnodes⟩ := nodes_of_same_ends s loader.nodes hsame
  exact ⟨hsame, uncycled_loader, uncycled_loader, hpositions uncycled_loader,
    hnodes uncycled_loader⟩

end Layout

end CallAtlas
