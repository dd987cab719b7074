import CallAtlas.Layout.Layers
import CallAtlas.Proofs.DepthFirst

/-!
# Layers keep their numbers

The layers of a graph begin as the numbers of each rank in order (`ofRanks_sorted`) and
are then ordered again and again. `Layers.Sorted` is what every ordering keeps: each layer
holds just the numbers of its rank, once each, in whatever order. How numbers are compared
does not matter for this, since sorting moves the numbers of one layer only
(`orderRow_sorted`). Two sweeps in each round keep it by induction on the layers that they
visit, and so do the rounds (`ofDigraph_sorted`).
-/

namespace CallAtlas

namespace Layers

/-- The numbers of a rank, in order. -/
def ofRank (ranks : Array Nat) (r : Nat) : List Nat :=
  (List.range ranks.size).filter fun n => ranks.getD n 0 = r

/-- What holds of the layers all the time. -/
structure Sorted (ranks : Array Nat) (l : Layers) : Prop where
  /-- A layer holds the numbers of its rank. -/
  rows : ∀ r, (l.rows.getD r []).Perm (ofRank ranks r)
  /-- There is a layer for every rank. -/
  count : ∀ n < ranks.size, ranks.getD n 0 < l.rows.size

/-! ## The first layers -/

theorem getD_replicate {β : Type} (count r : Nat) (d : β) :
    (Array.replicate count d).getD r d = d := by
  rw [Array.getD_eq_getD_getElem?, Array.getElem?_replicate]
  split <;> rfl

/-- Numbers that are put into layers one after the other, the last first. -/
theorem foldr_layers (rank : Nat → Nat) (count : Nat) : ∀ ns : List Nat,
    (∀ n ∈ ns, rank n < count) →
      let rows := ns.foldr (fun n (rows : Array (List Nat)) => rows.modify (rank n) (n :: ·))
        (Array.replicate count [])
      rows.size = count ∧ ∀ r, rows.getD r [] = ns.filter fun n => rank n = r := by
  intro ns
  induction ns with
  | nil =>
    intro _
    exact ⟨Array.size_replicate, fun r => getD_replicate count r []⟩
  | cons n ns ih =>
    intro h
    obtain ⟨hn, hns⟩ := List.forall_mem_cons.mp h
    obtain ⟨hsize, hrows⟩ := ih hns
    refine ⟨by rw [List.foldr_cons, Array.size_modify, hsize], fun r => ?_⟩
    rw [List.foldr_cons, Array.getD_eq_getD_getElem?, Array.getElem?_modify]
    by_cases hr : rank n = r
    · subst hr
      rw [if_pos rfl, Array.getElem?_eq_getElem (hsize.symm ▸ hn), List.filter_cons,
        if_pos (decide_eq_true rfl), ← hrows, Array.getD_eq_getD_getElem?,
        Array.getElem?_eq_getElem (hsize.symm ▸ hn)]
      rfl
    · rw [if_neg hr, List.filter_cons_of_neg (by simpa using hr), ← hrows,
        Array.getD_eq_getD_getElem?]

/-- The highest number so far is not below where it started, nor below any that has been
passed. -/
theorem le_foldl_max : ∀ (ns : List Nat) (start : Nat),
    start ≤ ns.foldl max start ∧ ∀ n ∈ ns, n ≤ ns.foldl max start := by
  intro ns
  induction ns with
  | nil => intro start; exact ⟨Nat.le_refl _, fun n hn => absurd hn List.not_mem_nil⟩
  | cons m ns ih =>
    intro start
    obtain ⟨hstart, hall⟩ := ih (max start m)
    rw [List.foldl_cons]
    refine ⟨Nat.le_trans (Nat.le_max_left _ _) hstart, fun n hn => ?_⟩
    rcases List.mem_cons.mp hn with rfl | hn
    · exact Nat.le_trans (Nat.le_max_right _ _) hstart
    · exact hall n hn

/-- No rank is above the highest. -/
theorem rank_le_highest (ranks : Array Nat) {n : Nat} (hn : n < ranks.size) :
    ranks.getD n 0 ≤ ranks.foldl max 0 := by
  rw [← Array.foldl_toList, Array.getD_eq_getD_getElem?, Array.getElem?_eq_getElem hn]
  exact (le_foldl_max _ 0).2 _ (Array.getElem_mem_toList hn)

/-- At first each layer holds the numbers of its rank in order. -/
theorem ofRanks_sorted (ranks : Array Nat) : Sorted ranks (ofRanks ranks) := by
  have hhighest : ∀ n ∈ List.range ranks.size, ranks.getD n 0 < ranks.foldl max 0 + 1 :=
    fun n hn => Nat.lt_succ_of_le (rank_le_highest ranks (List.mem_range.mp hn))
  obtain ⟨hsize, hrows⟩ := foldr_layers (fun n => ranks.getD n 0) _ _ hhighest
  exact
    { rows := fun r => List.Perm.of_eq (hrows r)
      count := fun n hn => hsize.symm ▸ hhighest n (List.mem_range.mpr hn) }

/-! ## Ordering -/

variable {ranks : Array Nat} {l : Layers}

/-- Sorting a row by means and slots loses no number and adds none, however they compare. -/
theorem sorted_perm (mean : Nat → Mean) (slot : Nat → Nat) (row : List Nat) :
    (((row.map fun n => (mean n, slot n, n)).mergeSort precedes).map fun (_, _, n) => n).Perm
      row := by
  refine ((List.mergeSort_perm _ precedes).map _).trans ?_
  rw [List.map_map]
  exact List.Perm.of_eq (List.map_id row)

/-- Ordering a layer moves its numbers and touches no other layer. -/
theorem orderRow_sorted (neighbours : Digraph) (h : Sorted ranks l) (r : Nat) :
    Sorted ranks (orderRow neighbours l r) where
  rows := fun k => by
    unfold orderRow
    dsimp only
    by_cases hr : r < l.rows.size
    · rw [Digraph.Search.getD_setIfInBounds hr]
      by_cases hk : k = r
      · subst hk
        rw [if_pos rfl]
        exact (sorted_perm _ _ _).trans (h.rows k)
      · rw [if_neg hk]
        exact h.rows k
    · rw [Array.setIfInBounds_eq_of_size_le (Nat.le_of_not_lt hr)]
      exact h.rows k
  count := fun n hn => by
    unfold orderRow
    dsimp only
    rw [Array.size_setIfInBounds]
    exact h.count n hn

/-- What each step keeps is kept by all of them. -/
theorem foldl_sorted {β : Type} {f : Layers → β → Layers}
    (hf : ∀ {l : Layers} (x : β), Sorted ranks l → Sorted ranks (f l x)) :
    ∀ (xs : List β) {l : Layers}, Sorted ranks l → Sorted ranks (xs.foldl f l) := by
  intro xs
  induction xs with
  | nil => intro l h; exact h
  | cons x xs ih => intro l h; exact ih (hf x h)

/-- A sweep down keeps the numbers of each layer. -/
theorem sweepDown_sorted (predecessors : Digraph) (h : Sorted ranks l) :
    Sorted ranks (sweepDown predecessors l) :=
  foldl_sorted (fun r h => orderRow_sorted predecessors h (r + 1)) _ h

theorem sweepUp_sorted (successors : Digraph) (h : Sorted ranks l) :
    Sorted ranks (sweepUp successors l) :=
  foldl_sorted (fun r h => orderRow_sorted successors h r) _ h

/-- **Each layer holds the numbers of its rank**, however often layers are ordered. -/
theorem ofDigraph_sorted (g : Digraph) (ranks : Array Nat) : Sorted ranks (ofDigraph g ranks) :=
  foldl_sorted (fun _ h => sweepUp_sorted g (sweepDown_sorted g.reversed h)) _
    (ofRanks_sorted ranks)

/-! ## All layers together -/

namespace Sorted

/-- A layer holds just the numbers of its rank. -/
theorem mem_row_iff (h : Sorted ranks l) {r n : Nat} :
    n ∈ l.rows.getD r [] ↔ n < ranks.size ∧ ranks.getD n 0 = r := by
  rw [(h.rows r).mem_iff, ofRank, List.mem_filter, List.mem_range, decide_eq_true_eq]

theorem getElem?_row {r : Nat} {row : List Nat} (hrow : l.rows.toList[r]? = some row) :
    l.rows.getD r [] = row := by
  rw [Array.getD_eq_getD_getElem?, ← Array.getElem?_toList, hrow]
  rfl

/-- The numbers of a layer have its rank. -/
theorem rank_of_mem (h : Sorted ranks l) {r n : Nat} {row : List Nat}
    (hrow : l.rows.toList[r]? = some row) (hn : n ∈ row) : ranks.getD n 0 = r :=
  (h.mem_row_iff.mp (getElem?_row hrow ▸ hn)).2

/-- Every number is in one layer, once. -/
theorem flatten_perm (h : Sorted ranks l) :
    l.rows.toList.flatten.Perm (List.range ranks.size) := by
  have hnodup : l.rows.toList.flatten.Nodup := by
    refine List.nodup_flatten.mpr ⟨fun row hrow => ?_, ?_⟩
    · obtain ⟨r, hr⟩ := List.mem_iff_getElem?.mp hrow
      rw [← getElem?_row hr, (h.rows r).nodup_iff]
      exact List.nodup_range.filter _
    · -- a number in two layers would have two ranks
      rw [List.pairwise_iff_getElem]
      intro i j hi hj hij n hni hnj
      have hranki := h.rank_of_mem (List.getElem?_eq_getElem hi) hni
      have hrankj := h.rank_of_mem (List.getElem?_eq_getElem hj) hnj
      exact absurd (hranki.symm.trans hrankj) (Nat.ne_of_lt hij)
  refine (List.perm_ext_iff_of_nodup hnodup List.nodup_range).mpr fun n => ?_
  rw [List.mem_range, List.mem_flatten]
  constructor
  · rintro ⟨row, hrow, hn⟩
    obtain ⟨r, hr⟩ := List.mem_iff_getElem?.mp hrow
    exact (h.mem_row_iff.mp (getElem?_row hr ▸ hn)).1
  · intro hn
    have hcount := h.count n hn
    refine ⟨l.rows.toList[ranks.getD n 0], List.getElem_mem _, ?_⟩
    rw [← getElem?_row (List.getElem?_eq_getElem _)]
    exact h.mem_row_iff.mpr ⟨hn, rfl⟩

end Sorted

end Layers

end CallAtlas
