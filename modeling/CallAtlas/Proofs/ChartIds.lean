import CallAtlas.Proofs.Identifiers
import CallAtlas.Report.Flowchart
import Mathlib.Data.List.Nodup
import Mathlib.Data.List.Perm.Subperm
import Std.Data.HashSet.Lemmas

/-!
# Ids of charts: each key has one of its own

Ids are made by putting underscores for all that is no letter or digit, so those of
different keys may fall together, and an id with a number behind it may be what another
key becomes. `ChartIds.assign` therefore looks through the numbered ids for one that is not
in use. The search ends: of more ids than are in use one is free (`exists_free`), and it
ends at the first such id (`firstFree_spec`).

`ChartIds.Valid` is what every call keeps: keys have different ids, all of which are in
use, and each id is made of its key. A key that has an id keeps it (`Grows`).
-/

namespace CallAtlas

namespace ChartIds

/-! ## The search for a free id -/

/-- Ids of one base have different numbers behind them. -/
theorem numbered_injective {base : String} {m n : Nat} (hm : 1 ≤ m) (hn : 1 ≤ n)
    (h : numbered base m = numbered base n) : m = n := by
  -- what stands behind the base: nothing for the first, else an underscore and the number
  have hbehind : ∀ k, (numbered base k).toList =
      base.toList ++ if k ≤ 1 then [] else '_' :: (toString k).toList := by
    intro k
    unfold numbered
    split
    · exact (List.append_nil _).symm
    · simp only [String.toList_append, List.append_assoc]
      rfl
  rw [← String.toList_inj, hbehind, hbehind, List.append_cancel_left_eq] at h
  by_cases hone : m ≤ 1
  · by_cases hone' : n ≤ 1
    · omega
    · rw [if_pos hone, if_neg hone'] at h
      cases h
  · by_cases hone' : n ≤ 1
    · rw [if_neg hone, if_pos hone'] at h
      cases h
    · rw [if_neg hone, if_neg hone'] at h
      exact Nat.repr_injective (String.toList_inj.mp (List.cons.inj h).2)

/-- Of more ids than are in use one is free. -/
theorem exists_free (used : Std.HashSet String) (base : String) :
    ∃ count, 1 ≤ count ∧ count ≤ used.size + 1 ∧ numbered base count ∉ used := by
  by_contra hnone
  have hall : ∀ i, i < used.size + 1 → numbered base (i + 1) ∈ used := by
    intro i hi
    by_contra hfree
    exact hnone ⟨i + 1, Nat.le_add_left 1 i, hi, hfree⟩
  have hnodup : ((List.range (used.size + 1)).map fun i => numbered base (i + 1)).Nodup := by
    refine List.Nodup.map (fun i j hij => ?_) List.nodup_range
    have := numbered_injective (Nat.le_add_left 1 i) (Nat.le_add_left 1 j) hij
    omega
  have hsubset : (List.range (used.size + 1)).map (fun i => numbered base (i + 1)) ⊆
      used.toList := by
    intro id hid
    obtain ⟨i, hi, rfl⟩ := List.mem_map.mp hid
    exact Std.HashSet.mem_toList.mpr (hall i (List.mem_range.mp hi))
  have hlength := (hnodup.subperm hsubset).length_le
  rw [List.length_map, List.length_range, Std.HashSet.length_toList] at hlength
  omega

/-- The number of the first id of a base that is not in use. -/
structure FirstFree (used : Std.HashSet String) (base : String) (count : Nat) : Prop where
  pos : 1 ≤ count
  free : numbered base count ∉ used
  least : ∀ k, 1 ≤ k → k < count → numbered base k ∈ used

/-- The search ends at the first free id from where it starts, if there is one within its fuel. -/
theorem firstFree_eq {used : Std.HashSet String} {base : String} :
    ∀ (fuel count : Nat), (∃ k, count ≤ k ∧ k ≤ count + fuel ∧ numbered base k ∉ used) →
      ∃ k, count ≤ k ∧ firstFree used base fuel count = numbered base k ∧
        numbered base k ∉ used ∧ ∀ j, count ≤ j → j < k → numbered base j ∈ used := by
  intro fuel
  induction fuel with
  | zero =>
    rintro count ⟨k, hle, hge, hfree⟩
    obtain rfl : k = count := by omega
    exact ⟨k, Nat.le_refl k, rfl, hfree, fun j hj hlt => by omega⟩
  | succ fuel ih =>
    rintro count ⟨k, hle, hge, hfree⟩
    rw [firstFree]
    -- an id in use only moves the start of the search by one
    by_cases hused : numbered base count ∈ used
    · have hk : k ≠ count := fun heq => hfree (heq ▸ hused)
      obtain ⟨n, hn, heq, hnfree, hbelow⟩ := ih (count + 1) ⟨k, by omega, by omega, hfree⟩
      refine ⟨n, by omega, ?_, hnfree, fun j hj hlt => ?_⟩
      · rw [if_pos (Std.HashSet.contains_iff_mem.mpr hused), heq]
      · by_cases hjc : j = count
        · rw [hjc]
          exact hused
        · exact hbelow j (by omega) hlt
    · refine ⟨count, Nat.le_refl count, ?_, hused, fun j hj hlt => by omega⟩
      rw [if_neg fun hcontains => hused (Std.HashSet.contains_iff_mem.mp hcontains)]

/-- The search ends, with the first id that is not in use. -/
theorem firstFree_spec (used : Std.HashSet String) (base : String) :
    ∃ count, firstFree used base used.size 1 = numbered base count ∧
      FirstFree used base count := by
  obtain ⟨k, hpos, hle, hfree⟩ := exists_free used base
  obtain ⟨count, hone, heq, hcount, hbelow⟩ :=
    firstFree_eq used.size 1 ⟨k, hpos, by omega, hfree⟩
  exact ⟨count, heq, hone, hcount, hbelow⟩

/-! ## Ids and keys -/

/-- What holds of all ids that were given out. -/
structure Valid (ids : ChartIds) : Prop where
  used : ∀ key id : String, ids.given[key]? = some id → id ∈ ids.used
  distinct : ∀ key key' id : String, ids.given[key]? = some id → ids.given[key']? = some id → key = key'
  made : ∀ key id : String, ids.given[key]? = some id →
    ∃ count, 1 ≤ count ∧ id = numbered (Identifier.ofText key) count

/-- Every key that has an id keeps it. -/
def Grows (ids ids' : ChartIds) : Prop :=
  ∀ key id : String, ids.given[key]? = some id → ids'.given[key]? = some id

/-- A key that keeps its id twice has kept it. -/
theorem Grows.trans {ids ids' ids'' : ChartIds} (h : Grows ids ids') (h' : Grows ids' ids'') :
    Grows ids ids'' := fun key id hid => h' key id (h key id hid)

theorem valid_none : none.Valid where
  used := fun key id h => by simp [none] at h
  distinct := fun key key' id h => by simp [none] at h
  made := fun key id h => by simp [none] at h

/-- A key that has an id gets it again, and nothing changes. -/
theorem assign_of_given {ids : ChartIds} {key id : String} (h : ids.given[key]? = some id) :
    ids.assign key = (id, ids) := by
  rw [assign, h]

/-- A key without an id gets the first one that is not in use. -/
theorem assign_of_new {ids : ChartIds} {key : String} (h : ids.given[key]? = .none) :
    ∃ count, FirstFree ids.used (Identifier.ofText key) count ∧
      ids.assign key = (numbered (Identifier.ofText key) count,
        ⟨ids.given.insert key (numbered (Identifier.ofText key) count),
          ids.used.insert (numbered (Identifier.ofText key) count)⟩) := by
  obtain ⟨count, heq, hcount⟩ := firstFree_spec ids.used (Identifier.ofText key)
  refine ⟨count, hcount, ?_⟩
  rw [assign, h, heq]

/-- An id that is not in use goes to a key that has none. -/
theorem Valid.insert {ids : ChartIds} {key : String} {count : Nat} (h : ids.Valid)
    (hcount : FirstFree ids.used (Identifier.ofText key) count) :
    Valid ⟨ids.given.insert key (numbered (Identifier.ofText key) count),
      ids.used.insert (numbered (Identifier.ofText key) count)⟩ := by
  -- an old id is in use, so it is not the new one
  have hold : ∀ k, ids.given[k]? ≠ some (numbered (Identifier.ofText key) count) :=
    fun k hk => hcount.free (h.used k _ hk)
  constructor
  case used =>
    intro k id hid
    rw [Std.HashMap.getElem?_insert] at hid
    rw [Std.HashSet.mem_insert]
    split at hid
    · exact .inl (beq_iff_eq.mpr (Option.some.inj hid))
    · exact .inr (h.used k id hid)
  case distinct =>
    intro k k' id hid hid'
    rw [Std.HashMap.getElem?_insert] at hid hid'
    by_cases hk : key = k
    · by_cases hk' : key = k'
      · exact hk.symm.trans hk'
      · rw [if_pos (beq_iff_eq.mpr hk)] at hid
        rw [if_neg (fun heq => hk' (beq_iff_eq.mp heq)), ← hid] at hid'
        exact absurd hid' (hold k')
    · rw [if_neg (fun heq => hk (beq_iff_eq.mp heq))] at hid
      by_cases hk' : key = k'
      · rw [if_pos (beq_iff_eq.mpr hk')] at hid'
        rw [← hid'] at hid
        exact absurd hid (hold k)
      · rw [if_neg (fun heq => hk' (beq_iff_eq.mp heq))] at hid'
        exact h.distinct k k' id hid hid'
  case made =>
    intro k id hid
    rw [Std.HashMap.getElem?_insert] at hid
    split at hid
    · next heq =>
      obtain rfl := eq_of_beq heq
      exact ⟨count, hcount.pos, (Option.some.inj hid).symm⟩
    · exact h.made k id hid

/-- What one call does: its key has the id that was given out, and what was known stays. -/
theorem assign_spec {ids : ChartIds} (h : ids.Valid) (key : String) :
    (ids.assign key).2.Valid ∧ Grows ids (ids.assign key).2 ∧
      (ids.assign key).2.given[key]? = some (ids.assign key).1 := by
  cases hkey : ids.given[key]? with
  | some id =>
    rw [assign_of_given hkey]
    exact ⟨h, fun _ _ hid => hid, hkey⟩
  | none =>
    obtain ⟨count, hcount, heq⟩ := assign_of_new hkey
    rw [heq]
    refine ⟨h.insert hcount, fun k id hid => ?_, Std.HashMap.getElem?_insert_self⟩
    rw [Std.HashMap.getElem?_insert, if_neg fun hk => ?_]
    · exact hid
    · rw [← eq_of_beq hk, hkey] at hid
      cases hid

/-! ## Characters of ids -/

/-- A letter, a digit or an underscore. -/
def isIdChar (c : Char) : Bool := c.isAlphanum || c == '_'

/-- The id of a text is made of letters, digits and underscores. -/
theorem isIdChar_of_mem_ofText {c : Char} {text : String}
    (h : c ∈ (Identifier.ofText text).toList) : isIdChar c = true := by
  rw [Identifier.ofText, String.toList_map] at h
  obtain ⟨d, -, rfl⟩ := List.mem_map.mp h
  unfold isIdChar Identifier.isPlain
  by_cases hd : d.isAlphanum = true
  · simp [hd]
  · simp [hd]

theorem isIdChar_of_mem_numbered {c : Char} {text : String} {count : Nat}
    (h : c ∈ (numbered (Identifier.ofText text) count).toList) : isIdChar c = true := by
  unfold numbered at h
  split at h
  · exact isIdChar_of_mem_ofText h
  · rw [String.toList_append, String.toList_append, List.mem_append, List.mem_append] at h
    rcases h with (h | h) | h
    · exact isIdChar_of_mem_ofText h
    · obtain rfl := List.mem_singleton.mp h
      decide
    · have hdigit : c.isDigit = true := by
        by_contra hno
        exact Identifier.not_mem_digits (Bool.not_eq_true _ ▸ hno) count h
      simp [isIdChar, Char.isAlphanum, hdigit]

theorem Valid.isIdChar {ids : ChartIds} (h : ids.Valid) {key id : String}
    (hid : ids.given[key]? = some id) : ∀ c ∈ id.toList, isIdChar c = true := by
  obtain ⟨count, -, rfl⟩ := h.made key id hid
  exact fun c hc => isIdChar_of_mem_numbered hc

end ChartIds

end CallAtlas
