import CallAtlas.Layout.Hierarchical
import CallAtlas.Proofs.DepthFirst
import CallAtlas.Proofs.Tables

/-!
# Ranks are lengths of longest ways

Ranks are raised along the edges, number by number in an order in which all edges go
forward. `Relaxed` is what holds after some numbers were taken: every rank is the length
of a way that ends at its number, and the edges out of the numbers that were taken go to
higher ranks. No later step spoils this, since no edge leads back to a number that was
taken (`Relaxed.step`). In the end all edges go to higher ranks, so no way is longer than
the rank of its end (`ranksAlong_longest`).

For the graph of some nodes and edges this gives `Hierarchical.ranks_longest`, for any
sorting function that keeps what `TopologicalSort` asks for.
-/

namespace CallAtlas

namespace Digraph

variable {g : Digraph}

/-! ## Ways -/

/-- A way along edges to a number, written backwards: `p` are the numbers that come
before `v`, the nearest first. -/
def Way (g : Digraph) (v : Nat) (p : List Nat) : Prop := (v :: p).IsChain fun b a => g.Arrow a b

theorem way_nil (g : Digraph) (v : Nat) : g.Way v [] := .singleton v

/-- A way ends with an edge from where a shorter way ends. -/
theorem way_cons_iff {u v : Nat} {p : List Nat} : g.Way v (u :: p) ↔ g.Arrow u v ∧ g.Way u p :=
  List.isChain_cons_cons

/-! ## Raising ranks -/

theorem getD_modify (ranks : Array Nat) (f : Nat → Nat) (w v : Nat) :
    (ranks.modify w f).getD v 0 =
      if w = v ∧ v < ranks.size then f (ranks.getD v 0) else ranks.getD v 0 := by
  rw [Array.getD_eq_getD_getElem?, Array.getD_eq_getD_getElem?, Array.getElem?_modify]
  by_cases hv : v < ranks.size
  · by_cases hwv : w = v <;> simp [hwv, hv]
  · simp [hv]

/-- Raising the ranks of some numbers leaves the array as long as it was and raises just those. -/
theorem foldl_raise (above v : Nat) : ∀ (vs : List Nat) (ranks : Array Nat),
    (vs.foldl (fun ranks v => ranks.modify v (max · above)) ranks).size = ranks.size ∧
    (vs.foldl (fun ranks v => ranks.modify v (max · above)) ranks).getD v 0 =
      if v ∈ vs ∧ v < ranks.size then max (ranks.getD v 0) above else ranks.getD v 0 := by
  intro vs
  induction vs with
  | nil => intro ranks; exact ⟨rfl, (if_neg fun h => absurd h.1 List.not_mem_nil).symm⟩
  | cons w vs ih =>
    intro ranks
    obtain ⟨hsize, hrank⟩ := ih (ranks.modify w (max · above))
    rw [Array.size_modify] at hsize hrank
    refine ⟨hsize, ?_⟩
    rw [List.foldl_cons, hrank, getD_modify]
    by_cases hv : v < ranks.size
    · by_cases hwv : w = v
      · -- raising a rank once more changes nothing
        subst hwv
        simp only [hv, and_true, if_true, List.mem_cons, true_or, Nat.max_assoc, Nat.max_self,
          ite_self]
      · have hvw : v ≠ w := fun heq => hwv heq.symm
        simp only [hv, hwv, hvw, false_and, if_false, List.mem_cons, false_or]
    · simp only [hv, and_false, if_false]

theorem size_relax (ranks : Array Nat) (u : Nat) : (g.relax ranks u).size = ranks.size :=
  (foldl_raise _ 0 (g.next u) ranks).1

/-- Taking the edges out of a number raises the ranks of what they lead to. -/
theorem relax_of_arrow {ranks : Array Nat} {u v : Nat} (hv : v < ranks.size)
    (huv : g.Arrow u v) :
    (g.relax ranks u).getD v 0 = max (ranks.getD v 0) (ranks.getD u 0 + 1) := by
  rw [relax, (foldl_raise _ v (g.next u) ranks).2, if_pos ⟨huv, hv⟩]

theorem relax_of_not_arrow {ranks : Array Nat} {u v : Nat} (huv : ¬g.Arrow u v) :
    (g.relax ranks u).getD v 0 = ranks.getD v 0 := by
  rw [relax, (foldl_raise _ v (g.next u) ranks).2, if_neg fun h => huv h.1]

/-- No rank gets lower. -/
theorem le_relax (ranks : Array Nat) (u v : Nat) :
    ranks.getD v 0 ≤ (g.relax ranks u).getD v 0 := by
  rw [relax, (foldl_raise _ v (g.next u) ranks).2]
  split
  · exact Nat.le_max_left _ _
  · exact Nat.le_refl _

/-- What holds when the edges out of some numbers have been taken. -/
structure Relaxed (g : Digraph) (done : List Nat) (ranks : Array Nat) : Prop where
  size : ranks.size = g.size
  /-- A rank is the length of a way. -/
  reached : ∀ v, ∃ p, g.Way v p ∧ p.length = ranks.getD v 0
  /-- The edges that were taken go to higher ranks. -/
  raised : ∀ u ∈ done, ∀ v, g.Arrow u v → ranks.getD u 0 + 1 ≤ ranks.getD v 0

/-- At first all ranks are the length of a way of one number, and no edges have been taken. -/
theorem relaxed_start (g : Digraph) : Relaxed g [] (Array.replicate g.size 0) where
  size := Array.size_replicate
  reached := fun v => by
    refine ⟨[], way_nil g v, ?_⟩
    rw [Array.getD_eq_getD_getElem?, Array.getElem?_replicate]
    split <;> rfl
  raised := fun u hu => absurd hu List.not_mem_nil

/-- Taking a number from which no edge leads to itself or to one that was taken. -/
theorem Relaxed.step {done : List Nat} {ranks : Array Nat} {w : Nat} (hg : g.InRange)
    (h : Relaxed g done ranks) (hself : ¬g.Arrow w w) (hback : ∀ u ∈ done, ¬g.Arrow w u) :
    Relaxed g (done ++ [w]) (g.relax ranks w) where
  size := (size_relax ranks w).trans h.size
  reached := fun v => by
    by_cases hwv : g.Arrow w v
    · rw [relax_of_arrow (h.size.symm ▸ hg w v hwv) hwv]
      -- the way to `w` with one edge more is longer than the one to `v`, or not
      rcases Nat.le_total (ranks.getD v 0) (ranks.getD w 0 + 1) with hle | hle
      · obtain ⟨p, hp, hlength⟩ := h.reached w
        refine ⟨w :: p, way_cons_iff.mpr ⟨hwv, hp⟩, ?_⟩
        rw [Nat.max_eq_right hle, List.length_cons, hlength]
      · rw [Nat.max_eq_left hle]
        exact h.reached v
    · rw [relax_of_not_arrow hwv]
      exact h.reached v
  raised := fun u hu v huv => by
    rcases List.mem_append.mp hu with hu | hu
    · -- the rank of a number that was taken stays
      rw [relax_of_not_arrow (hback u hu)]
      exact Nat.le_trans (h.raised u hu v huv) (le_relax ranks w v)
    · obtain rfl := List.mem_singleton.mp hu
      rw [relax_of_not_arrow hself, relax_of_arrow (h.size.symm ▸ hg u v huv) huv]
      exact Nat.le_max_right _ _

/-- **All numbers are taken in order**, and what holds after some of them holds after all. The
induction is on the numbers that are left, with `Relaxed.step` for each. -/
theorem Relaxed.run (hg : g.InRange) : ∀ (todo done : List Nat) (ranks : Array Nat),
    g.Sorts (done ++ todo) → Relaxed g done ranks →
      Relaxed g (done ++ todo) (todo.foldl g.relax ranks) := by
  intro todo
  induction todo with
  | nil => intro done ranks _ h; rw [List.append_nil]; exact h
  | cons w todo ih =>
    intro done ranks hsorts h
    have hself : ¬g.Arrow w w := fun hww => Nat.lt_irrefl _ (hsorts.idxOf_lt hww)
    have hback : ∀ u ∈ done, ¬g.Arrow w u := fun u hu hwu => by
      have hforward := (before_append hu (List.mem_cons_self (a := w) (l := todo))).idxOf_lt
        hsorts.nodup
      exact Nat.lt_asymm hforward (hsorts.idxOf_lt hwu)
    have hsplit : done ++ w :: todo = (done ++ [w]) ++ todo := by rw [List.append_assoc]; rfl
    rw [hsplit] at hsorts ⊢
    exact ih _ _ hsorts (h.step hg hself hback)

/-! ## The final ranks -/

/-- Ranks that go up along all edges, each of them the length of a way. -/
structure Ranked (g : Digraph) (rank : Nat → Nat) : Prop where
  reached : ∀ v, ∃ p, g.Way v p ∧ p.length = rank v
  raised : ∀ u v, g.Arrow u v → rank u < rank v

/-- Ranks along a sorted order go up along all edges, and each is the length of a way. -/
theorem ranksAlong_ranked (hg : g.InRange) {order : List Nat} (h : g.Sorts order) :
    (g.ranksAlong order).size = g.size ∧ g.Ranked fun v => (g.ranksAlong order).getD v 0 := by
  have hrelaxed : Relaxed g order (g.ranksAlong order) :=
    Relaxed.run hg order [] _ h (relaxed_start g)
  refine ⟨hrelaxed.size, hrelaxed.reached, fun u v huv => ?_⟩
  exact hrelaxed.raised u (h.perm.mem_iff.mpr (List.mem_range.mpr huv.source_lt)) v huv

namespace Ranked

variable {rank : Nat → Nat}

/-- No way is longer than the rank of its end. -/
theorem longest (h : g.Ranked rank) : ∀ (p : List Nat) (v : Nat), g.Way v p →
    p.length ≤ rank v := by
  intro p
  induction p with
  | nil => intro v _; exact Nat.zero_le _
  | cons u p ih =>
    intro v hway
    obtain ⟨huv, hp⟩ := way_cons_iff.mp hway
    exact Nat.lt_of_le_of_lt (ih u hp) (h.raised u v huv)

/-- A way does not come to a number twice. -/
theorem way_nodup (h : g.Ranked rank) {v : Nat} {p : List Nat} (hway : g.Way v p) :
    (v :: p).Nodup := by
  have htrans : Trans (fun b a => rank a < rank b) (fun b a => rank a < rank b)
      (fun b a => rank a < rank b) := ⟨fun hba hcb => Nat.lt_trans hcb hba⟩
  have hchain : (v :: p).IsChain fun b a => rank a < rank b :=
    List.IsChain.imp (fun b a hab => h.raised a b hab) hway
  refine hchain.pairwise.imp fun {b a} hlt heq => ?_
  subst heq
  exact Nat.lt_irrefl _ hlt

/-- There is one such rank only. -/
theorem unique (h : g.Ranked rank) {rank' : Nat → Nat} (h' : g.Ranked rank') (v : Nat) :
    rank v = rank' v := by
  obtain ⟨p, hway, hlength⟩ := h.reached v
  obtain ⟨p', hway', hlength'⟩ := h'.reached v
  refine Nat.le_antisymm ?_ ?_
  · rw [← hlength]
    exact h'.longest p v hway
  · rw [← hlength']
    exact h.longest p' v hway'

/-- Arrays of such ranks are the same if they are of one size. -/
theorem array_eq {a b : Array Nat} (ha : g.Ranked fun v => a.getD v 0)
    (hb : g.Ranked fun v => b.getD v 0) (hsize : a.size = b.size) : a = b := by
  refine Array.ext hsize fun i hi hi' => ?_
  have hrank := ha.unique hb i
  rw [Array.getD_eq_getD_getElem?, Array.getD_eq_getD_getElem?, Array.getElem?_eq_getElem hi,
    Array.getElem?_eq_getElem hi'] at hrank
  exact hrank

/-- Below a rank there is no gap. -/
theorem no_gap (h : g.Ranked rank) : ∀ (n r v : Nat), rank v = r + n →
    v < g.size → ∃ u < g.size, rank u = r := by
  intro n
  induction n with
  | zero => intro r v hv hsize; exact ⟨v, hsize, hv⟩
  | succ n ih =>
    intro r v hv hsize
    obtain ⟨p, hway, hlength⟩ := h.reached v
    cases p with
    | nil => rw [List.length_nil] at hlength; omega
    | cons u p =>
      -- the number before the end of a longest way has the rank below
      obtain ⟨huv, hp⟩ := way_cons_iff.mp hway
      have hlow := h.longest p u hp
      have hhigh := h.raised u v huv
      rw [List.length_cons] at hlength
      exact ih r u (by omega) huv.source_lt

end Ranked

end Digraph

/-! ## The graph of some nodes and edges -/

namespace Hierarchical

variable {α : Type}

/-- An edge joins two nodes, the first ones with the ids of its ends. -/
def Joins (nodes : List (Node α)) (edges : List Edge) (i j : Nat) : Prop :=
  ∃ e ∈ edges, nodes.findIdx? (·.id == e.source) = some i ∧
    nodes.findIdx? (·.id == e.target) = some j

/-- The number that is found for an id is that of the first node with it. -/
theorem indexOf_spec (nodes : List (Node α)) (id : String) :
    (indexOf nodes)[id]? = nodes.findIdx? (·.id == id) := by
  refine (Tables.getElem?_foldl_insertIfNew (fun x : Node α × Nat => x.1.id) (fun x => x.2) id
    nodes.zipIdx {}).trans ?_
  rw [Std.HashMap.getElem?_empty, Option.none_or, List.findIdx?_eq_fst_find?_zipIdx]

/-- Numbers are joined where edges join different nodes. -/
theorem mem_joined_iff {nodes : List (Node α)} {edges : List Edge} {i j : Nat} :
    (i, j) ∈ joined nodes edges ↔ Joins nodes edges i j ∧ i ≠ j := by
  unfold joined Joins
  rw [List.mem_filterMap]
  simp only [indexOf_spec]
  constructor
  · rintro ⟨e, he, hpair⟩
    obtain ⟨s, hs, hpair⟩ := Option.bind_eq_some_iff.mp hpair
    obtain ⟨t, ht, hpair⟩ := Option.bind_eq_some_iff.mp hpair
    split at hpair
    · cases hpair
    · next hne =>
      obtain ⟨rfl, rfl⟩ := Prod.mk.inj (Option.some.inj hpair)
      exact ⟨⟨e, he, hs, ht⟩, hne⟩
  · rintro ⟨⟨e, he, hs, ht⟩, hne⟩
    refine ⟨e, he, ?_⟩
    rw [hs, ht]
    exact if_neg hne

variable {nodes : List (Node α)} {edges : List Edge}

/-- The arrows between numbers are the edges between different nodes. -/
theorem arrow_digraph_iff {i j : Nat} :
    (digraph nodes edges).Arrow i j ↔ Joins nodes edges i j ∧ i ≠ j := by
  rw [digraph, Digraph.arrow_ofEdges_iff, mem_joined_iff]
  refine ⟨And.left, fun h => ⟨h, ?_⟩⟩
  obtain ⟨⟨e, -, hi, -⟩, -⟩ := h
  exact (List.findIdx?_eq_some_iff_getElem.mp hi).1

theorem digraph_inRange : (digraph nodes edges).InRange := by
  intro i j hij
  obtain ⟨⟨e, -, -, hj⟩, -⟩ := arrow_digraph_iff.mp hij
  rw [digraph, Digraph.size_ofEdges]
  exact (List.findIdx?_eq_some_iff_getElem.mp hj).1

theorem digraph_loopless : (digraph nodes edges).Loopless := fun _ hii =>
  (arrow_digraph_iff.mp hii).2 rfl

theorem size_acyclic : (acyclic nodes edges).size = nodes.length := by
  rw [acyclic, Digraph.size_unlooped, digraph, Digraph.size_ofEdges]

/-- An edge that lies on no cycle is not turned around. -/
theorem arrow_acyclic_of_joins {i j : Nat} (hij : Joins nodes edges i j) (hne : i ≠ j)
    (hcycle : ¬Relation.ReflTransGen (Joins nodes edges) j i) :
    (acyclic nodes edges).Arrow i j := by
  have harrow := arrow_digraph_iff.mpr ⟨hij, hne⟩
  refine (Digraph.arrow_unlooped_iff digraph_inRange).mpr (.inl ⟨harrow, fun hclosing => ?_⟩)
  obtain ⟨-, hreaches⟩ := Digraph.reaches_of_closing digraph_inRange hclosing
  exact hcycle (hreaches.lift id fun a b hab => (arrow_digraph_iff.mp hab).1)

/-- Edges are turned around at most: two nodes are joined after it if they were before. -/
theorem arrow_acyclic_iff {i j : Nat} (hne : i ≠ j) :
    ((acyclic nodes edges).Arrow i j ∨ (acyclic nodes edges).Arrow j i) ↔
      (Joins nodes edges i j ∨ Joins nodes edges j i) := by
  have hforward : ∀ {i j}, (acyclic nodes edges).Arrow i j →
      Joins nodes edges i j ∨ Joins nodes edges j i := by
    intro i j hij
    rcases (Digraph.arrow_unlooped_iff digraph_inRange).mp hij with ⟨harrow, -⟩ | ⟨harrow, -⟩
    · exact .inl (arrow_digraph_iff.mp harrow).1
    · exact .inr (arrow_digraph_iff.mp harrow).1
  have hbackward : ∀ {i j}, i ≠ j → Joins nodes edges i j →
      (acyclic nodes edges).Arrow i j ∨ (acyclic nodes edges).Arrow j i := by
    intro i j hne hij
    have harrow := arrow_digraph_iff.mpr ⟨hij, hne⟩
    -- an edge between different nodes stays as it is or is turned around
    by_cases hclosing : (i, j) ∈ (digraph nodes edges).search.closing
    · exact .inr ((Digraph.arrow_unlooped_iff digraph_inRange).mpr (.inr ⟨harrow, hclosing⟩))
    · exact .inl ((Digraph.arrow_unlooped_iff digraph_inRange).mpr (.inl ⟨harrow, hclosing⟩))
  constructor
  · rintro (hij | hji)
    · exact hforward hij
    · exact (hforward hji).symm
  · rintro (hij | hji)
    · exact hbackward hne hij
    · exact (hbackward hne.symm hji).symm

/-- The ranks that any sorting function gives. -/
theorem ranks_ranked {sort : Digraph → Option (List Nat)} (hsort : Digraph.TopologicalSort sort)
    (nodes : List (Node α)) (edges : List Edge) :
    (sort (acyclic nodes edges)).isSome = true ∧
    ((acyclic nodes edges).ranks sort).size = nodes.length ∧
    (acyclic nodes edges).Ranked fun i => ((acyclic nodes edges).ranks sort).getD i 0 := by
  have hrange : (acyclic nodes edges).InRange := Digraph.unlooped_inRange digraph_inRange
  have hsome := hsort.complete _ hrange
    (Digraph.unlooped_acyclic digraph_inRange digraph_loopless)
  obtain ⟨order, horder⟩ := Option.isSome_iff_exists.mp hsome
  obtain ⟨hsize, hranked⟩ :=
    Digraph.ranksAlong_ranked hrange (hsort.sound _ order hrange horder)
  rw [Digraph.ranks, horder]
  exact ⟨rfl, hsize.trans size_acyclic, hranked⟩

/-- All sorting functions give the same ranks. -/
theorem ranks_eq {sort : Digraph → Option (List Nat)} (hsort : Digraph.TopologicalSort sort)
    (nodes : List (Node α)) (edges : List Edge) :
    (acyclic nodes edges).ranks sort = ranks nodes edges := by
  obtain ⟨-, hsize, hranked⟩ := ranks_ranked hsort nodes edges
  obtain ⟨-, hsize', hranked'⟩ := ranks_ranked Digraph.sorted?_sorts nodes edges
  exact hranked.array_eq hranked' (hsize.trans hsize'.symm)

/-- **Ranks are lengths of longest ways.** The graph from which ranks are taken joins the
nodes that the edges join and has no cycles, so every sorting function gives an order for
it, and all give the same ranks. The rank of a node is the length of a way to it that
comes to no node twice, and no way to it is longer; so there is no rank without a node up
to the highest one. And an edge between two nodes that lies on no cycle of the edges goes
to a higher rank. -/
theorem ranks_longest {sort : Digraph → Option (List Nat)} (hsort : Digraph.TopologicalSort sort)
    (nodes : List (Node α)) (edges : List Edge) :
    let dag := acyclic nodes edges
    let rank := fun i => (dag.ranks sort).getD i 0
    dag.size = nodes.length ∧
    (∀ i j, i ≠ j → (dag.Arrow i j ∨ dag.Arrow j i ↔
      Joins nodes edges i j ∨ Joins nodes edges j i)) ∧
    dag.Acyclic ∧ (sort dag).isSome = true ∧
    (dag.ranks sort).size = nodes.length ∧ dag.ranks sort = ranks nodes edges ∧
    (∀ i, (∃ p, dag.Way i p ∧ (i :: p).Nodup ∧ p.length = rank i) ∧
      ∀ p, dag.Way i p → p.length ≤ rank i) ∧
    (∀ i < nodes.length, ∀ r ≤ rank i, ∃ j < nodes.length, rank j = r) ∧
    ∀ e ∈ edges, ∀ i j, nodes.findIdx? (·.id == e.source) = some i →
      nodes.findIdx? (·.id == e.target) = some j → i ≠ j →
      ¬Relation.ReflTransGen (Joins nodes edges) j i → rank i < rank j := by
  intro dag rank
  have hacyclic : dag.Acyclic := Digraph.unlooped_acyclic digraph_inRange digraph_loopless
  obtain ⟨hsome, hsize, hranked⟩ := ranks_ranked hsort nodes edges
  refine ⟨size_acyclic, fun i j hne => arrow_acyclic_iff hne, hacyclic, hsome, hsize,
    ranks_eq hsort nodes edges, fun i => ?_, fun i hi r hr => ?_,
    fun e he i j hi hj hne hcycle => ?_⟩
  · obtain ⟨p, hway, hlength⟩ := hranked.reached i
    exact ⟨⟨p, hway, hranked.way_nodup hway, hlength⟩, fun p hp => hranked.longest p i hp⟩
  · rw [show nodes.length = dag.size from size_acyclic.symm] at hi ⊢
    exact hranked.no_gap (rank i - r) r i (Nat.add_sub_cancel' hr).symm hi
  · exact hranked.raised i j (arrow_acyclic_of_joins ⟨e, he, hi, hj⟩ hne hcycle)

/-- Three nodes. The first two call each other, and the second one calls the third. -/
def mutualCalls : CallGraph Float :=
  let node (id : String) : Node Float := .ofFunction id .function (.named id) 1 .simple
  let edge (source target : String) : Edge :=
    ⟨source ++ target, source, target, 1, false, none⟩
  ⟨[node "a", node "b", node "c"], [edge "a" "b", edge "b" "a", edge "b" "c"]⟩

theorem ranks_longest_mutualCalls :
    ((acyclic mutualCalls.nodes mutualCalls.edges).ranks Digraph.sorted?).getD 1 0 <
      ((acyclic mutualCalls.nodes mutualCalls.edges).ranks Digraph.sorted?).getD 2 0 := by
  obtain ⟨-, -, -, -, -, -, -, -, hup⟩ :=
    ranks_longest Digraph.sorted?_sorts mutualCalls.nodes mutualCalls.edges
  have hend : ¬Relation.ReflTransGen (Joins mutualCalls.nodes mutualCalls.edges) 2 1 := by
    intro hreaches
    rcases hreaches.cases_head with heq | ⟨i, ⟨e, he, hsource, -⟩, -⟩
    · cases heq
    · have hall : ∀ e ∈ mutualCalls.edges,
          mutualCalls.nodes.findIdx? (·.id == e.source) ≠ some 2 := by decide
      exact hall e he hsource
  have hmem : ⟨"bc", "b", "c", 1, false, none⟩ ∈ mutualCalls.edges := by decide
  exact hup _ hmem 1 2 (by decide) (by decide) (by decide) hend

end Hierarchical

end CallAtlas
