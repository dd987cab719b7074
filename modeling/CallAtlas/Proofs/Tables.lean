import CallAtlas.Number.Basic
import Std.Data.HashMap.Lemmas

/-!
# Tables filled from lists

What is found in a table after a list has been put into it entry by entry: the first
entry with a key (`getElem?_foldl_insertIfNew`), the number of entries with a key
(`getD_foldl_count`), or the keys in the order of their first entries
(`foldl_firsts`). The counts of all keys add up to the length of the list
(`total_counts`).
-/

namespace CallAtlas

namespace Tables

variable {ι κ β : Type} [BEq κ]

/-- Without the keys that are like the first, a list is shorter. -/
theorem length_without_lt (k : κ) (ks : List κ) :
    (ks.filter fun b => !b == k).length < (k :: ks).length :=
  Nat.lt_succ_of_le (List.length_filter_le _ ks)

variable [LawfulBEq κ]

section Filling

variable [Hashable κ] [LawfulHashable κ]

/-! ## The first entry with a key -/

/-- A table that keeps what it has holds the first entry with a key, unless it had one before. -/
theorem getElem?_foldl_insertIfNew (key : ι → κ) (value : ι → β) (k : κ) :
    ∀ (xs : List ι) (m : Std.HashMap κ β),
      (xs.foldl (fun m x => m.insertIfNew (key x) (value x)) m)[k]? =
        m[k]?.or ((xs.find? fun x => key x == k).map value) := by
  intro xs
  induction xs with
  | nil => intro m; exact Option.or_none.symm
  | cons x xs ih =>
    intro m
    rw [List.foldl_cons, ih, Std.HashMap.getElem?_insertIfNew, List.find?_cons]
    cases hk : key x == k with
    | false => simp
    | true =>
      obtain rfl := eq_of_beq hk
      -- an entry that is there stays
      cases hm : m[key x]? with
      | none =>
        have hnew : key x ∉ m := by
          intro hmem
          rw [Std.HashMap.getElem?_eq_some_getElem hmem] at hm
          cases hm
        simp [hnew]
      | some b =>
        have hold : key x ∈ m := by
          rw [Std.HashMap.mem_iff_isSome_getElem?, hm]
          rfl
        simp [hold]

/-! ## Counts -/

/-- A table that counts holds how often a key is in the list, more than it had before. -/
theorem getD_foldl_count (key : ι → κ) (k : κ) :
    ∀ (xs : List ι) (m : Std.HashMap κ Nat),
      (xs.foldl (fun m x => m.alter (key x) fun n => some (n.getD 0 + 1)) m).getD k 0 =
        m.getD k 0 + (xs.map key).count k := by
  intro xs
  induction xs with
  | nil => intro m; rfl
  | cons x xs ih =>
    intro m
    rw [List.foldl_cons, ih, Std.HashMap.getD_alter, List.map_cons, List.count_cons,
      Std.HashMap.getD_eq_getD_getElem?]
    cases hk : key x == k with
    | false => simp
    | true =>
      obtain rfl := eq_of_beq hk
      simp
      omega

/-! ## Keys in the order of their first entries -/

/-- Passing over the keys that have been seen leaves each key where it comes first. The table of
what has been seen and the list so far hold the same keys, which is what the induction carries. -/
theorem foldl_firsts (key : ι → κ) :
    ∀ (xs : List ι) (seen : Std.HashMap κ Unit) (acc : List κ),
      (∀ k, seen.contains k = acc.any (k == ·)) →
      (xs.foldl (fun (seen, acc) x =>
          if seen.contains (key x) then (seen, acc)
          else (seen.insert (key x) (), key x :: acc)) (seen, acc)).2.reverse =
        List.eraseDupsBy.loop (· == ·) (xs.map key) acc := by
  intro xs
  induction xs with
  | nil => intro seen acc _; rfl
  | cons x xs ih =>
    intro seen acc hseen
    rw [List.foldl_cons, List.map_cons, List.eraseDupsBy.loop]
    dsimp only
    cases hx : acc.any (key x == ·) with
    | true =>
      rw [if_pos ((hseen _).trans hx)]
      exact ih seen acc hseen
    | false =>
      rw [if_neg (by rw [hseen, hx]; exact Bool.false_ne_true)]
      refine ih _ _ fun k => ?_
      rw [Std.HashMap.contains_insert, hseen, List.any_cons, BEq.comm]

end Filling

/-! ## Lists without repetitions -/

/-- No key is left twice. -/
theorem nodup_eraseDups : ∀ ks : List κ, ks.eraseDups.Nodup
  | [] => List.Pairwise.nil
  | k :: ks => by
    rw [List.eraseDups_cons]
    refine List.nodup_cons.mpr ⟨fun hmem => ?_, nodup_eraseDups _⟩
    have hne := (List.mem_filter.mp (List.mem_eraseDups.mp hmem)).2
    simp at hne
termination_by ks => ks.length
decreasing_by exact length_without_lt k ks

/-- The counts of all keys add up to the length of the list. -/
theorem total_counts : ∀ ks : List κ, Number.total (ks.eraseDups.map (ks.count ·)) = ks.length
  | [] => rfl
  | k :: ks => by
    -- the other keys are as often in the list as in the list without this key
    have hothers : (ks.filter fun b => !b == k).eraseDups.map ((k :: ks).count ·) =
        (ks.filter fun b => !b == k).eraseDups.map ((ks.filter fun b => !b == k).count ·) := by
      refine List.map_congr_left fun b hb => ?_
      have hne := (List.mem_filter.mp (List.mem_eraseDups.mp hb)).2
      have hkb : ¬(k == b) = true := fun heq => by simp [eq_of_beq heq] at hne
      rw [List.count_filter (p := fun b => !b == k) hne, List.count_cons, if_neg hkb]
      rfl
    have hrest : (ks.filter fun b => !b == k).length + ks.count k = ks.length := by
      rw [← List.countP_eq_length_filter, List.count, Nat.add_comm,
        List.length_eq_countP_add_countP (· == k) (l := ks)]
      simp only [Bool.not_eq_true, Bool.decide_eq_false]
    rw [List.eraseDups_cons, List.map_cons, Number.total, hothers, total_counts _,
      List.count_cons_self, List.length_cons, ← hrest]
    omega
termination_by ks => ks.length
decreasing_by exact length_without_lt k ks

end Tables

end CallAtlas
