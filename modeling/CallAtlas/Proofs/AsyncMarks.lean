import CallAtlas.Graph.Build
import CallAtlas.Text.Case
import Mathlib.Data.List.Infix

/-!
# Marks in capital and in small letters

A name tells of an asynchronous function if it holds a mark when it is written in small
letters. `CallGraph.namesAsync` makes only the letters of ASCII small and still finds the
same marks as Unicode's small letters would show (`namesAsync_iff`).

`Kin` says how the two texts can differ: in characters of which no mark is made, and
where a dotted capital I becomes an `i` with a dot of its own behind it. Neither lets a
mark appear or disappear, since no mark ends with `i` (`Kin.infix_iff`). The Kelvin sign,
the only other character beyond ASCII whose small letter is in ASCII, becomes a `k`, which
is in no mark (`image?_spec`).
-/

namespace CallAtlas

namespace CallGraph

/-- A text holds a mark if the mark stands in it somewhere. -/
theorem holds_iff {mark : List Char} : ∀ {text : List Char},
    holds mark text = true ↔ mark <:+: text := by
  intro text
  induction text with
  | nil => rw [holds, List.isEmpty_iff, List.infix_nil]
  | cons c cs ih =>
    rw [holds, Bool.or_eq_true, ih, List.isPrefixOf_iff_prefix, List.infix_cons_iff]

/-! ## The letters of the marks -/

/-- The letters of which marks are made. -/
def markLetters : List Char := asyncMarks.flatMap String.toList

/-- The letters of marks are small ones of ASCII, and `k` is none of them. -/
theorem toNat_of_mem_markLetters {c : Char} (h : c ∈ markLetters) :
    c.toNat < 0x80 ∧ c.toNat ≠ 0x6B := by
  have hall : (markLetters.all fun c => decide (c.toNat < 0x80 ∧ c.toNat ≠ 0x6B)) = true := by
    decide
  exact of_decide_eq_true (List.all_eq_true.mp hall c h)

/-- Beyond ASCII there is no letter of a mark. -/
theorem not_mem_markLetters {c : Char} (h : 0x80 ≤ c.toNat) : c ∉ markLetters := fun hmem =>
  absurd (toNat_of_mem_markLetters hmem).1 (Nat.not_lt.mpr h)

/-- What is left of a mark behind some of its letters. -/
structure MarkEnd (m : List Char) : Prop where
  letters : ∀ c ∈ m, c ∈ markLetters
  last : m.getLast? ≠ some 'i'

/-- What is left behind one letter more is the end of a mark too. -/
theorem MarkEnd.tail {c : Char} {m : List Char} (h : MarkEnd (c :: m)) : MarkEnd m where
  letters := fun d hd => h.letters d (List.mem_cons_of_mem c hd)
  last := fun hlast => h.last (by
    rw [List.getLast?_cons, hlast]
    rfl)

/-- Marks are made of their letters, and none ends with `i`. -/
theorem markEnd_of_mem {mark : String} (h : mark ∈ asyncMarks) : MarkEnd mark.toList where
  letters := fun _ hc => List.mem_flatMap.mpr ⟨mark, h, hc⟩
  last := by
    have hall : ∀ mark ∈ asyncMarks, mark.toList.getLast? ≠ some 'i' := by decide
    exact hall mark h

/-! ## Texts that hold the same marks -/

/-- Two texts that differ only where no mark can tell. -/
inductive Kin : List Char → List Char → Prop
  | nil : Kin [] []
  | same {as bs : List Char} (c : Char) (rest : Kin as bs) : Kin (c :: as) (c :: bs)
  | other {a b : Char} {as bs : List Char} (ha : a ∉ markLetters) (hb : b ∉ markLetters)
      (rest : Kin as bs) : Kin (a :: as) (b :: bs)
  /-- An `i` that is followed by the dot of a dotted capital I. -/
  | dotted {a b : Char} {as bs : List Char} (ha : a ∉ markLetters) (hb : b ∉ markLetters)
      (rest : Kin as bs) : Kin (a :: as) ('i' :: b :: bs)

namespace Kin

/-- A mark begins one of two such texts just if it begins the other. The induction is on how they
differ; the dot behind an `i` is where a mark must not end. -/
theorem prefix_iff {as bs : List Char} (h : Kin as bs) :
    ∀ {m : List Char}, MarkEnd m → (m <+: as ↔ m <+: bs) := by
  induction h with
  | nil => intro m _; rfl
  | same c _ ih =>
    intro m hm
    cases m with
    | nil => simp only [List.nil_prefix]
    | cons d m => rw [List.cons_prefix_cons, List.cons_prefix_cons, ih hm.tail]
  | other ha hb _ _ =>
    intro m hm
    cases m with
    | nil => simp only [List.nil_prefix]
    | cons d m =>
      have hd := hm.letters d (List.mem_cons_self ..)
      rw [List.cons_prefix_cons, List.cons_prefix_cons]
      exact ⟨fun h => absurd (h.1 ▸ hd) ha, fun h => absurd (h.1 ▸ hd) hb⟩
  | dotted ha hb _ _ =>
    intro m hm
    cases m with
    | nil => simp only [List.nil_prefix]
    | cons d m =>
      have hd := hm.letters d (List.mem_cons_self ..)
      rw [List.cons_prefix_cons, List.cons_prefix_cons]
      refine ⟨fun h => absurd (h.1 ▸ hd) ha, fun ⟨hi, hrest⟩ => ?_⟩
      -- a mark that goes on with `i` goes on behind it, but not with the dot
      cases m with
      | nil => exact absurd (congrArg some hi) hm.last
      | cons e m =>
        have he := hm.letters e (List.mem_cons_of_mem d (List.mem_cons_self ..))
        exact absurd ((List.cons_prefix_cons.mp hrest).1 ▸ he) hb

/-- A mark stands in one of two such texts just if it stands in the other. -/
theorem infix_iff {as bs : List Char} (h : Kin as bs) {m : List Char} (hm : MarkEnd m)
    (hne : m ≠ []) : m <:+: as ↔ m <:+: bs := by
  induction h with
  | nil => rfl
  | same c rest ih =>
    rw [List.infix_cons_iff, List.infix_cons_iff, ih, (rest.same c).prefix_iff hm]
  | other ha hb rest ih =>
    rw [List.infix_cons_iff, List.infix_cons_iff, ih, (rest.other ha hb).prefix_iff hm]
  | @dotted a b as bs ha hb rest ih =>
    have hdot : ¬m <+: b :: bs := by
      cases m with
      | nil => exact absurd rfl hne
      | cons d m =>
        intro hprefix
        exact hb ((List.cons_prefix_cons.mp hprefix).1 ▸ hm.letters d (List.mem_cons_self ..))
    rw [List.infix_cons_iff, ih, (rest.dotted ha hb).prefix_iff hm]
    simp only [List.infix_cons_iff, hdot, false_or]

end Kin

/-! ## Small letters -/

/-- What the table of small letters gives is beyond ASCII or the small letter of the
Kelvin sign. -/
theorem image?_spec {n image : Nat} (h : Case.image? CaseTable.small n = some image) :
    0x80 ≤ image ∨ image = 0x6B := by
  have hall : ∀ run ∈ CaseTable.small,
      0x80 ≤ run.2.2.2 ∨ (run.1 = run.2.1 ∧ run.2.2.2 = 0x6B) := by decide +kernel
  obtain ⟨⟨first, last, step, start⟩, hrun, heq⟩ := Option.map_eq_some_iff.mp h
  have hbounds := List.find?_some hrun
  simp only [Bool.and_eq_true, decide_eq_true_eq] at hbounds
  have hstart := hall _ (List.mem_of_find?_eq_some hrun)
  dsimp only at heq hstart
  omega

/-- Neither a character beyond ASCII nor a small `k` is a letter of a mark. -/
theorem ofNat_not_mem_markLetters {n : Nat} (h : 0x80 ≤ n ∨ n = 0x6B) :
    Char.ofNat n ∉ markLetters := by
  unfold Char.ofNat
  by_cases hvalid : n.isValidChar
  · rw [dif_pos hvalid]
    intro hmem
    obtain ⟨hascii, hk⟩ := toNat_of_mem_markLetters hmem
    have hcode : (Char.ofNatAux n hvalid).toNat = n := rfl
    omega
  · -- a number that is no character stands for the first one
    rw [dif_neg hvalid]
    decide

theorem toLower_of_not_ascii {c : Char} (h : 0x80 ≤ c.toNat) : c.toLower = c := by
  unfold Char.toLower
  refine dif_neg fun hcapital => ?_
  have hle : c.toNat ≤ 'Z'.toNat := hcapital.2
  exact absurd (Nat.le_trans h hle) (by decide)

/-- A character in small letters as it stands before the same text. -/
theorem kin_small {c : Char} {as bs : List Char} (h : Kin as bs) :
    Kin (c.toLower :: as) (Case.small c ++ bs) := by
  unfold Case.small
  split
  · exact h.same _
  · next hascii =>
    rw [Nat.not_lt] at hascii
    rw [toLower_of_not_ascii hascii]
    split
    · exact h.dotted (not_mem_markLetters hascii) (by decide)
    · refine h.other (not_mem_markLetters hascii) (ofNat_not_mem_markLetters ?_)
      cases himage : Case.image? CaseTable.small c.toNat with
      | none => exact .inl hascii
      | some image => exact image?_spec himage

/-- A text in small letters of ASCII differs from the same in Unicode's only where no mark can
tell, whatever stands before it. -/
theorem kin_smallAll : ∀ (text before : List Char),
    Kin (text.map Char.toLower) (Case.smallAll before text) := by
  intro text
  induction text with
  | nil => intro before; exact .nil
  | cons c rest ih =>
    intro before
    rw [List.map_cons, Case.smallAll]
    split
    · -- both small forms of a sigma are beyond ASCII
      next hsigma =>
      subst hsigma
      split
      · exact (ih _).other (by decide) (by decide)
      · exact (ih _).other (by decide) (by decide)
    · exact kin_small (ih _)

/-- **A name tells of an asynchronous function if it holds a mark in small letters.** -/
theorem namesAsync_iff (name : String) :
    namesAsync name = true ↔ ∃ mark ∈ asyncMarks, mark.toList <:+: (Case.toSmall name).toList := by
  have hall : ∀ mark ∈ asyncMarks, mark.toList ≠ [] := by decide
  unfold namesAsync Case.toSmall
  rw [List.any_eq_true, String.toList_ofList]
  refine exists_congr fun mark => and_congr_right fun hmark => ?_
  rw [holds_iff, (kin_smallAll _ []).infix_iff (markEnd_of_mem hmark) (hall mark hmark)]

end CallGraph

end CallAtlas
