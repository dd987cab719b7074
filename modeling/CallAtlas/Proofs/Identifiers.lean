import CallAtlas.Graph.Build
import Mathlib.Data.List.Nodup
import Std.Data.HashMap.Lemmas
import Std.Data.String.ToNat

/-!
# Ids: numbering never makes two alike

`Identifier.distinct` numbers ids that repeat with `-2`, `-3` and so on. A numbered id
could be the same as the base of another one. That it never is rests on the hyphen: the
texts from which bases are made have none (`dash_not_mem_ofText`), so all bases of one
kind have the same number of hyphens and a numbered id has one more
(`numbered_inj`).
-/

namespace CallAtlas

namespace Identifier

/-! ## Hyphens -/

/-- The number of hyphens of a text. -/
def dashes (s : String) : Nat := s.toList.count '-'

theorem dashes_append (s t : String) : dashes (s ++ t) = dashes s + dashes t := by
  rw [dashes, String.toList_append, List.count_append]
  rfl

/-- Bases are made of small letters, digits and underscores. -/
theorem dash_not_mem_ofText (text : String) : '-' ∉ (ofText text).toList := by
  rw [ofText, String.toList_map]
  intro hmem
  obtain ⟨c, -, hc⟩ := List.mem_map.mp hmem
  split at hc
  · next hplain =>
    subst hc
    exact absurd hplain (by decide)
  · exact absurd hc (by decide)

theorem dashes_ofText (text : String) : dashes (ofText text) = 0 :=
  List.count_eq_zero.mpr (dash_not_mem_ofText text)

/-- A number is written with digits alone. -/
theorem not_mem_digits {c : Char} (hc : c.isDigit = false) (n : Nat) :
    c ∉ (toString n).toList := by
  rw [Nat.toString_eq_repr, Nat.toList_repr]
  intro hmem
  have hdigit := Nat.isDigit_of_mem_toDigits (by decide) (by decide) hmem
  rw [hc] at hdigit
  exact Bool.false_ne_true hdigit

theorem dash_not_mem_digits (n : Nat) : '-' ∉ (toString n).toList :=
  not_mem_digits (by decide) n

theorem dashes_digits (n : Nat) : dashes (toString n) = 0 :=
  List.count_eq_zero.mpr (dash_not_mem_digits n)

/-- Numbering adds one hyphen, and none where the count is one. -/
theorem dashes_numbered (base : String) (count : Nat) :
    dashes (numbered base count) = dashes base + if count ≤ 1 then 0 else 1 := by
  unfold numbered
  split
  · rfl
  · rw [dashes_append, dashes_append, dashes_digits]
    rfl

/-- What stands behind the last mark of a kind is found in one way only. -/
theorem append_mark_inj {c : Char} {xs ys as bs : List Char} (has : c ∉ as) (hbs : c ∉ bs)
    (h : xs ++ c :: as = ys ++ c :: bs) : xs = ys ∧ as = bs := by
  rcases List.append_eq_append_iff.mp h with ⟨cs, hys, hcs⟩ | ⟨cs, hxs, hcs⟩
  · cases cs with
    | nil => exact ⟨by rw [hys, List.append_nil], (List.cons.inj hcs).2⟩
    | cons c cs =>
      obtain ⟨-, rfl⟩ := List.cons.inj hcs
      exact absurd (List.mem_append_right _ (List.mem_cons_self ..)) has
  · cases cs with
    | nil => exact ⟨by rw [hxs, List.append_nil], (List.cons.inj hcs).2.symm⟩
    | cons c cs =>
      obtain ⟨-, rfl⟩ := List.cons.inj hcs
      exact absurd (List.mem_append_right _ (List.mem_cons_self ..)) hbs

/-- What stands before the first mark of a kind is found in one way only. -/
theorem append_first_mark_inj {c : Char} {xs ys as bs : List Char} (hxs : c ∉ xs) (hys : c ∉ ys)
    (h : xs ++ c :: as = ys ++ c :: bs) : xs = ys ∧ as = bs := by
  have hback : as.reverse ++ c :: xs.reverse = bs.reverse ++ c :: ys.reverse := by
    have hreverse := congrArg List.reverse h
    simp only [List.reverse_append, List.reverse_cons, List.append_assoc] at hreverse
    exact hreverse
  obtain ⟨has, hx⟩ := append_mark_inj (fun hmem => hxs (List.mem_reverse.mp hmem))
    (fun hmem => hys (List.mem_reverse.mp hmem)) hback
  exact ⟨List.reverse_inj.mp hx, List.reverse_inj.mp has⟩

/-- Ids whose bases have as many hyphens are alike only if base and number are. -/
theorem numbered_inj {base base' : String} {count count' : Nat}
    (hdashes : dashes base = dashes base') (hcount : 1 ≤ count) (hcount' : 1 ≤ count')
    (h : numbered base count = numbered base' count') : base = base' ∧ count = count' := by
  have hsame := congrArg dashes h
  rw [dashes_numbered, dashes_numbered, hdashes] at hsame
  unfold numbered at h
  by_cases hone : count ≤ 1
  · by_cases hone' : count' ≤ 1
    · rw [if_pos hone, if_pos hone'] at h
      exact ⟨h, by omega⟩
    · -- only one of the two has a hyphen more than its base
      rw [if_pos hone, if_neg hone'] at hsame
      omega
  · by_cases hone' : count' ≤ 1
    · rw [if_neg hone, if_pos hone'] at hsame
      omega
    · rw [if_neg hone, if_neg hone', ← String.toList_inj] at h
      simp only [String.toList_append, List.append_assoc] at h
      obtain ⟨hbase, hdigits⟩ :=
        append_mark_inj (dash_not_mem_digits count) (dash_not_mem_digits count') h
      exact ⟨String.toList_inj.mp hbase, Nat.repr_injective (String.toList_inj.mp hdigits)⟩

/-! ## Numbering -/

/-- There are as many ids as bases. -/
theorem length_distinct (bases : List String) : (distinct bases).length = bases.length := by
  have hgo : ∀ (bases : List String) (seen : Std.HashMap String Nat),
      (distinct.go seen bases).length = bases.length := by
    intro bases
    induction bases with
    | nil => intro seen; rfl
    | cons base rest ih => intro seen; rw [distinct.go, List.length_cons, ih, List.length_cons]
  exact hgo bases {}

/-- Each id is a base with a number above all that the base has got before. -/
theorem mem_go {id : String} :
    ∀ {bases : List String} {seen : Std.HashMap String Nat}, id ∈ distinct.go seen bases →
      ∃ base ∈ bases, ∃ count, seen.getD base 0 < count ∧ id = numbered base count := by
  intro bases
  induction bases with
  | nil => intro seen h; cases h
  | cons base rest ih =>
    intro seen h
    rcases List.mem_cons.mp h with rfl | h
    · exact ⟨base, List.mem_cons_self .., _, Nat.lt_succ_self _, rfl⟩
    · obtain ⟨b, hb, count, hcount, hid⟩ := ih h
      refine ⟨b, List.mem_cons_of_mem _ hb, count, ?_, hid⟩
      -- the number of this base has just gone up, those of all others are what they were
      rw [Std.HashMap.getD_insert] at hcount
      split at hcount
      · next heq =>
        obtain rfl := eq_of_beq heq
        omega
      · exact hcount

/-- Every id is that of a base, numbered. -/
theorem mem_distinct {id : String} {bases : List String} (h : id ∈ distinct bases) :
    ∃ base ∈ bases, ∃ count, 1 ≤ count ∧ id = numbered base count := by
  obtain ⟨base, hbase, count, hcount, hid⟩ := mem_go h
  exact ⟨base, hbase, count, by omega, hid⟩

/-- **No two ids are alike** where all bases have as many hyphens. -/
theorem distinct_nodup {k : Nat} {bases : List String} (h : ∀ base ∈ bases, dashes base = k) :
    (distinct bases).Nodup := by
  have hgo : ∀ (bases : List String) (seen : Std.HashMap String Nat),
      (∀ base ∈ bases, dashes base = k) → (distinct.go seen bases).Nodup := by
    intro bases
    induction bases with
    | nil => intro seen _; exact List.nodup_nil
    | cons base rest ih =>
      intro seen h
      obtain ⟨hbase, hrest⟩ := List.forall_mem_cons.mp h
      refine List.nodup_cons.mpr ⟨fun hmem => ?_, ih _ hrest⟩
      obtain ⟨b, hb, count, hcount, hid⟩ := mem_go hmem
      -- a later id of the same base has a number above that of this one
      have hdashes : dashes base = dashes b := hbase.trans (hrest b hb).symm
      obtain ⟨rfl, rfl⟩ := numbered_inj hdashes (Nat.le_add_left _ _) (by omega) hid
      rw [Std.HashMap.getD_insert_self] at hcount
      exact absurd hcount (Nat.lt_irrefl _)
  exact hgo bases {} h

/-- A numbered id begins as its base does. -/
theorem numbered_append (start text : String) (count : Nat) :
    ∃ rest, numbered (start ++ text) count = start ++ rest := by
  unfold numbered
  split
  · exact ⟨text, rfl⟩
  · exact ⟨text ++ "-" ++ toString count, by rw [String.append_assoc, String.append_assoc,
      String.append_assoc]⟩

end Identifier

end CallAtlas
