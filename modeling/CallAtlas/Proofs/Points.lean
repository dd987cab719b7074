import CallAtlas.Source.Text
import Mathlib.Data.List.GetD
import Mathlib.Data.List.Induction
import Mathlib.Data.String.Basic

/-!
# Rows and columns

A text keeps the offsets at which its lines begin, and the row of an offset is found among
them by halving. What the search needs of its range is an invariant (`IsRange`): the line of
the first number begins at the offset or before it, and that of the second behind it.

Of the line starts of `a ++ b` the first ones, one more than the line feeds of `a`, are at
most as large as `a` is long, and all others are larger. So there is only one number at which
the search can end, and row and column of the place behind `a` can be counted in `a`
(`point_ofString`).
-/

namespace CallAtlas

namespace SourceText

open String (utf8Len utf8Len_cons utf8Len_append)

/-! ## Line starts -/

/-- The offsets right after the line feeds of a text that begins at an offset. -/
def startsFrom (offset : Nat) : List Char → List Nat
  | [] => []
  | c :: rest =>
    let next := offset + c.utf8Size
    if c = '\n' then next :: startsFrom next rest else startsFrom next rest

/-- The offsets that have been gathered stay in front of those that follow. -/
theorem foldl_startsFrom (cs : List Char) : ∀ (offset : Nat) (starts : Array Nat),
    (cs.foldl (fun (offset, starts) c =>
      let next := offset + c.utf8Size
      (next, if c = '\n' then starts.push next else starts)) (offset, starts)).2.toList =
      starts.toList ++ startsFrom offset cs := by
  induction cs with
  | nil =>
    intro offset starts
    exact (List.append_nil _).symm
  | cons c rest ih =>
    intro offset starts
    rw [List.foldl_cons, ih, startsFrom]
    by_cases hfeed : c = '\n'
    · rw [if_pos hfeed, if_pos hfeed, Array.toList_push, List.append_assoc]
      rfl
    · rw [if_neg hfeed, if_neg hfeed]

theorem lineStartsOf_toList (text : String) :
    (lineStartsOf text).toList = 0 :: startsFrom 0 text.toList := by
  rw [lineStartsOf, String.foldl_eq_foldl_toList]
  exact foldl_startsFrom text.toList 0 #[0]

/-- The lines of a text behind another begin at offsets that are moved by its length. -/
theorem startsFrom_append (a b : List Char) : ∀ offset,
    startsFrom offset (a ++ b) =
      startsFrom offset a ++ startsFrom (offset + utf8Len a) b := by
  induction a with
  | nil => exact fun offset => rfl
  | cons c rest ih =>
    intro offset
    have hsize : offset + c.utf8Size + utf8Len rest =
        offset + utf8Len (c :: rest) := by
      rw [utf8Len_cons]
      omega
    rw [List.cons_append, startsFrom, startsFrom, ih, hsize]
    split <;> rfl

/-- A line start lies behind the line feed before it and not behind the text. -/
theorem bounds_of_mem_startsFrom {cs : List Char} {x : Nat} : ∀ {offset},
    x ∈ startsFrom offset cs → offset < x ∧ x ≤ offset + utf8Len cs := by
  induction cs with
  | nil => exact fun h => nomatch h
  | cons c rest ih =>
    intro offset h
    have hpos := c.utf8Size_pos
    have hlate : x ∈ startsFrom (offset + c.utf8Size) rest →
        offset < x ∧ x ≤ offset + utf8Len (c :: rest) := by
      intro hx
      have hbounds := ih hx
      rw [utf8Len_cons]
      omega
    rw [startsFrom] at h
    split at h
    · rcases List.mem_cons.mp h with rfl | hx
      · rw [utf8Len_cons]
        omega
      · exact hlate hx
    · exact hlate h

/-- There is one line start for each line feed. -/
theorem length_startsFrom (cs : List Char) : ∀ offset,
    (startsFrom offset cs).length = cs.count '\n' := by
  induction cs with
  | nil => exact fun offset => rfl
  | cons c rest ih =>
    intro offset
    rw [startsFrom, List.count_cons]
    by_cases hfeed : c = '\n'
    · rw [if_pos hfeed, List.length_cons, ih, if_pos (beq_iff_eq.mpr hfeed)]
    · rw [if_neg hfeed, ih, if_neg (fun h => hfeed (beq_iff_eq.mp h)), Nat.add_zero]

/-- What stands behind the last line feed. -/
def lastLine (cs : List Char) : List Char := (cs.reverse.takeWhile (· ≠ '\n')).reverse

theorem lastLine_concat (cs : List Char) (c : Char) :
    lastLine (cs ++ [c]) = if c = '\n' then [] else lastLine cs ++ [c] := by
  rw [lastLine, List.reverse_concat, List.takeWhile_cons, lastLine]
  by_cases hfeed : c = '\n'
  · rw [if_pos hfeed, hfeed]
    rfl
  · rw [if_neg hfeed, if_pos (decide_eq_true hfeed), List.reverse_cons]

/-- The last line begins where the rest of the text ends. The induction goes from the end of
the text, where only the last character matters. -/
theorem getLastD_startsFrom (cs : List Char) :
    (startsFrom 0 cs).getLastD 0 + utf8Len (lastLine cs) = utf8Len cs := by
  induction cs using List.reverseRecOn with
  | nil => rfl
  | append_singleton cs c ih =>
    rw [startsFrom_append, lastLine_concat, Nat.zero_add, startsFrom, startsFrom, utf8Len_append]
    by_cases hfeed : c = '\n'
    · rw [if_pos hfeed, if_pos hfeed, List.getLastD_concat, utf8Len_cons, Nat.add_assoc,
        Nat.add_comm c.utf8Size]
    · rw [if_neg hfeed, if_neg hfeed, List.append_nil, utf8Len_append, ← Nat.add_assoc, ih]

/-! ## Halving -/

/-- The line of `lo` begins at the offset or before it, that of `hi` behind it, where there
is one. -/
structure IsRange (starts : Array Nat) (offset lo hi : Nat) : Prop where
  lt : lo < hi
  le_size : hi ≤ starts.size
  before : starts.getD lo 0 ≤ offset
  behind : hi < starts.size → offset < starts.getD hi 0

/-- The search ends at a line that begins at the offset or before it while the next one
begins behind it. -/
theorem isRange_searchRow {starts : Array Nat} {offset fuel : Nat} : ∀ {lo hi : Nat},
    IsRange starts offset lo hi → hi - lo ≤ 2 ^ fuel →
      IsRange starts offset (searchRow starts offset fuel lo hi)
        (searchRow starts offset fuel lo hi + 1) := by
  induction fuel with
  | zero =>
    intro lo hi hrange hfuel
    have hhi : hi = lo + 1 := by
      have := hrange.lt
      omega
    rw [searchRow, ← hhi]
    exact hrange
  | succ fuel ih =>
    intro lo hi hrange hfuel
    have hlt := hrange.lt
    rw [Nat.pow_succ] at hfuel
    rw [searchRow]
    by_cases hdone : hi ≤ lo + 1
    · have hhi : hi = lo + 1 := by omega
      rw [if_pos hdone, ← hhi]
      exact hrange
    · rw [if_neg hdone]
      have hsize := hrange.le_size
      dsimp only
      -- the half that is kept is a range again, and half as long
      by_cases hmid : starts.getD ((lo + hi) / 2) 0 ≤ offset
      · rw [if_pos hmid]
        exact ih ⟨by omega, hsize, hmid, hrange.behind⟩ (by omega)
      · rw [if_neg hmid]
        exact ih ⟨by omega, by omega, hrange.before, fun _ => Nat.not_le.mp hmid⟩ (by omega)

/-! ## Places behind a beginning -/

/-- If of the line starts those before a number, and no others, are at the offset or before
it, that number is the next one after the row of the offset. -/
theorem row_add_one {t : SourceText} {offset : Nat} {near far : List Nat}
    (hstarts : t.lineStarts.toList = near ++ far) (hne : near ≠ [])
    (hnear : ∀ x ∈ near, x ≤ offset) (hfar : ∀ x ∈ far, offset < x) :
    t.row offset + 1 = near.length := by
  have hget : ∀ i, t.lineStarts.getD i 0 = (near ++ far).getD i 0 := by
    intro i
    rw [← hstarts, Array.getD_eq_getD_getElem?, List.getD_eq_getElem?_getD,
      Array.getElem?_toList]
  have hsize : t.lineStarts.size = near.length + far.length := by
    rw [← Array.length_toList, hstarts, List.length_append]
  have hlength : 0 < near.length := List.length_pos_of_ne_nil hne
  have hin : ∀ i, i < near.length → t.lineStarts.getD i 0 ≤ offset := by
    intro i hi
    rw [hget, List.getD_append _ _ _ _ hi, List.getD_eq_getElem _ _ hi]
    exact hnear _ (List.getElem_mem hi)
  have hout : ∀ i, near.length ≤ i → i < t.lineStarts.size → offset < t.lineStarts.getD i 0 := by
    intro i hi hlt
    have hfit : i - near.length < far.length := by omega
    rw [hget, List.getD_append_right _ _ _ _ hi, List.getD_eq_getElem _ _ hfit]
    exact hfar _ (List.getElem_mem hfit)
  have hrange : IsRange t.lineStarts offset (t.row offset) (t.row offset + 1) := by
    have hwhole : IsRange t.lineStarts offset 0 t.lineStarts.size :=
      ⟨by omega, Nat.le_refl _, hin 0 hlength, fun h => absurd h (Nat.lt_irrefl _)⟩
    have hfuel : t.lineStarts.size - 0 ≤ 2 ^ (t.lineStarts.size.log2 + 2) := by
      have hlog := Nat.lt_log2_self (n := t.lineStarts.size)
      rw [Nat.pow_succ]
      omega
    exact isRange_searchRow hwhole hfuel
  -- a larger row would begin behind the offset, and behind a smaller one another line begins
  -- in time
  by_contra hother
  rcases Nat.lt_or_gt_of_ne hother with hless | hmore
  · have hnext := hin (t.row offset + 1) hless
    exact absurd (hrange.behind (by omega)) (Nat.not_lt.mpr hnext)
  · have hlate := hout (t.row offset) (by omega) hrange.le_size
    exact absurd hrange.before (Nat.not_le.mpr hlate)

/-- **Row and column** of the place behind a beginning of a text: as many rows as the
beginning has line feeds, and as many columns as its last line has bytes. -/
theorem point_ofString (a b : String) :
    (ofString (a ++ b)).point a.utf8ByteSize =
      ⟨a.toList.count '\n', utf8Len (lastLine a.toList)⟩ := by
  have hsize : a.utf8ByteSize = utf8Len a.toList := by
    rw [← String.utf8ByteSize_ofList, String.ofList_toList]
  have hstarts : (ofString (a ++ b)).lineStarts.toList =
      (0 :: startsFrom 0 a.toList) ++ startsFrom a.utf8ByteSize b.toList := by
    rw [ofString, lineStartsOf_toList, String.toList_append, startsFrom_append, Nat.zero_add,
      ← hsize, List.cons_append]
  -- the line starts in front of the place, and those behind it
  have hnear : ∀ x ∈ 0 :: startsFrom 0 a.toList, x ≤ a.utf8ByteSize := by
    intro x hx
    rcases List.mem_cons.mp hx with rfl | hx
    · exact Nat.zero_le _
    · rw [hsize, ← Nat.zero_add (utf8Len a.toList)]
      exact (bounds_of_mem_startsFrom hx).2
  have hfar : ∀ x ∈ startsFrom a.utf8ByteSize b.toList, a.utf8ByteSize < x :=
    fun x hx => (bounds_of_mem_startsFrom hx).1
  have hrow := row_add_one hstarts (List.cons_ne_nil _ _) hnear hfar
  rw [List.length_cons, length_startsFrom] at hrow
  have hrow' : (ofString (a ++ b)).row a.utf8ByteSize = a.toList.count '\n' :=
    Nat.succ.inj hrow
  have hstart : (ofString (a ++ b)).lineStarts.getD (a.toList.count '\n') 0 =
      (startsFrom 0 a.toList).getLastD 0 := by
    rw [← length_startsFrom a.toList 0, Array.getD_eq_getD_getElem?, ← Array.getElem?_toList,
      hstarts]
    rcases List.eq_nil_or_concat (startsFrom 0 a.toList) with hnil | ⟨starts, x, hlast⟩
    · rw [hnil]
      rfl
    · rw [hlast, List.concat_eq_append]
      simp
  have hcolumn : a.utf8ByteSize - (startsFrom 0 a.toList).getLastD 0 =
      utf8Len (lastLine a.toList) := by
    rw [hsize, ← getLastD_startsFrom a.toList, Nat.add_sub_cancel_left]
  rw [point, hrow', hstart, hcolumn]

end SourceText

end CallAtlas
