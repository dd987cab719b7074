import CallAtlas.Layout.Grid
import Mathlib.Data.List.SplitBy
import Mathlib.Data.Prod.Lex
import Mathlib.Data.String.Basic

/-!
# The groups of a grid

A grid sorts its nodes by the place of their group and cuts the sorted list where the
group changes. `place` tells the groups of functions apart (`place_inj`), so a group
that has been left never comes again: the groups of the cut list are strictly in the
order of their places (`groups_increasing`), and their headers have different ids
(`sections_ids_nodup`).
-/

namespace CallAtlas

namespace NodeGroup

/-- A group that a function can have: the index of a hook is one of a hook. -/
def Known (g : NodeGroup) : Prop := ∀ i, g = hook i → i < Naming.hooks.length

/-- The group of a function is one that functions can have. -/
theorem ofFunction_known (f : FunctionInfo) : (ofFunction f).Known := by
  intro i h
  unfold ofFunction at h
  split at h
  · cases h
  · split at h
    · cases h
    · split at h
      · cases h
      · split at h
        · next j hj =>
          obtain rfl := NodeGroup.hook.inj h
          unfold hookIndex? at hj
          obtain ⟨hook, -, hfind⟩ := Option.bind_eq_some_iff.mp hj
          exact (List.findIdx?_eq_some_iff_getElem.mp hfind).1
        · split at h
          · cases h
          · split at h <;> cases h

/-- All groups that functions can have. -/
def all : List NodeGroup :=
  [exported, async, method] ++ (List.range Naming.hooks.length).map hook ++
    [handler, function, other]

/-- No group is missing in the list of all. -/
theorem mem_all {g : NodeGroup} (h : g.Known) : g ∈ all := by
  unfold all
  cases g with
  | hook i =>
    have hi : hook i ∈ (List.range Naming.hooks.length).map hook :=
      List.mem_map_of_mem (List.mem_range.mpr (h i rfl))
    exact List.mem_append_left _ (List.mem_append_right _ hi)
  | _ => simp

/-- Different groups have different places. There are finitely many groups, which are looked
through. -/
theorem place_inj {g h : NodeGroup} (hg : g.Known) (hh : h.Known) (heq : g.place = h.place) :
    g = h := by
  have hall : ∀ g ∈ all, ∀ h ∈ all, g.place = h.place → g = h := by decide
  exact hall g (mem_all hg) h (mem_all hh) heq

theorem slug_inj {g h : NodeGroup} (hg : g.Known) (hh : h.Known) (heq : g.slug = h.slug) :
    g = h := by
  have hall : ∀ g ∈ all, ∀ h ∈ all, g.slug = h.slug → g = h := by decide +kernel
  exact hall g (mem_all hg) h (mem_all hh) heq

end NodeGroup

namespace Grid

/-! ## The order of the members -/

/-- What members are sorted by. -/
def Member.key (a : Member) : ℕ ×ₗ String ×ₗ ℕ := toLex (a.group.place, toLex (a.label, a.index))

/-- Members are compared by the places of their groups, then their labels, then where they came
from. -/
theorem Member.precedes_iff (a b : Member) : a.precedes b = true ↔ a.key ≤ b.key := by
  unfold Member.precedes Member.key
  rw [Prod.Lex.toLex_le_toLex, Prod.Lex.toLex_le_toLex]
  by_cases hplace : a.group.place = b.group.place
  · by_cases hlabel : a.label = b.label
    · simp [hplace, hlabel]
    · simp [hplace, hlabel]
  · simp [hplace]

section Members

variable {α : Type}

/-- Members are sorted by the places of their groups, then their labels, then where they came
from. -/
theorem members_sorted (nodes : List (Node α)) :
    (members nodes).Pairwise fun a b => a.key ≤ b.key := by
  have htrans : ∀ a b c : Member, a.precedes b → b.precedes c → a.precedes c := by
    intro a b c hab hbc
    rw [Member.precedes_iff] at hab hbc ⊢
    exact le_trans hab hbc
  have htotal : ∀ a b : Member, a.precedes b || b.precedes a := by
    intro a b
    rw [Bool.or_eq_true, Member.precedes_iff, Member.precedes_iff]
    exact le_total _ _
  unfold members
  refine (List.pairwise_mergeSort htrans htotal _).imp fun {a b} hab => ?_
  exact (Member.precedes_iff a b).mp hab

/-- The group of a member is that of a function. -/
theorem members_known {nodes : List (Node α)} {a : Member} (h : a ∈ members nodes) :
    a.group.Known := by
  obtain ⟨⟨n, i⟩, -, rfl⟩ := List.mem_map.mp (List.mem_mergeSort.mp h)
  exact NodeGroup.ofFunction_known n.function

end Members

/-! ## Cutting the list -/

/-- One group comes before another one by the places of their first members. -/
def Before (xs ys : List Member) : Prop :=
  ∃ hx hy, (xs.head hx).group.place < (ys.head hy).group.place

instance : Trans Before Before Before :=
  ⟨fun ⟨hx, _, hxy⟩ ⟨_, hz, hyz⟩ => ⟨hx, hz, Nat.lt_trans hxy hyz⟩⟩

/-- Where the group changes the place goes up. -/
theorem before_of_change {xs ys : List Member}
    (hknown : ∀ a ∈ xs ++ ys, a.group.Known)
    (hsorted : (xs ++ ys).Pairwise fun a b => a.group.place ≤ b.group.place)
    (hchange : ∃ hx hy, ((xs.getLast hx).group == (ys.head hy).group) = false) :
    Before xs ys := by
  obtain ⟨hx, hy, hne⟩ := hchange
  -- from the first member of `xs` to its last and on to `ys` places never go down, and
  -- the last step changes the group, so it changes the place
  obtain ⟨hxs, -, hxys⟩ := List.pairwise_append.mp hsorted
  have hlast : (xs.head hx).group.place ≤ (xs.getLast hx).group.place := by
    cases xs with
    | nil => exact absurd rfl hx
    | cons a xs =>
      rcases List.mem_cons.mp (List.getLast_mem hx) with heq | hmem
      · exact Nat.le_of_eq (congrArg (fun m => m.group.place) heq.symm)
      · exact (List.pairwise_cons.mp hxs).1 _ hmem
  have hnext := hxys _ (List.getLast_mem hx) _ (List.head_mem hy)
  have hplaces : (xs.getLast hx).group.place ≠ (ys.head hy).group.place := fun heq =>
    beq_eq_false_iff_ne.mp hne (NodeGroup.place_inj
      (hknown _ (List.mem_append_left _ (List.getLast_mem hx)))
      (hknown _ (List.mem_append_right _ (List.head_mem hy))) heq)
  exact ⟨hx, hy, by omega⟩

/-- A list that is sorted by places is cut into groups in the order of their places, of which none
comes twice. -/
theorem groups_increasing_of {ms : List Member} (hknown : ∀ a ∈ ms, a.group.Known)
    (hsorted : ms.Pairwise fun a b => a.group.place ≤ b.group.place) :
    (groups ms).Pairwise Before := by
  have hchain := List.isChain_getLast_head_splitBy (fun a b : Member => a.group == b.group) ms
  have hflat := List.flatten_splitBy (fun a b : Member => a.group == b.group) ms
  rw [← hflat] at hknown hsorted
  refine List.IsChain.pairwise ?_
  -- by induction over the groups: what is known of the list is known of what is left of
  -- it without the first group
  revert hchain hknown hsorted
  unfold groups
  induction ms.splitBy _ with
  | nil => intro _ _ _; exact .nil
  | cons xs gs ih =>
    intro hknown hsorted hchain
    cases gs with
    | nil => exact .singleton _
    | cons ys gs =>
      obtain ⟨hchange, hrest⟩ := List.isChain_cons_cons.mp hchain
      have hfirst : (xs ++ ys).Sublist (xs :: ys :: gs).flatten := by
        rw [List.flatten_cons, List.flatten_cons, ← List.append_assoc]
        exact List.sublist_append_left _ _
      have hlater : (ys :: gs).flatten.Sublist (xs :: ys :: gs).flatten := by
        rw [List.flatten_cons]
        exact List.sublist_append_right _ _
      refine List.isChain_cons_cons.mpr ⟨?_, ?_⟩
      · exact before_of_change (fun a ha => hknown a (hfirst.subset ha)) (hsorted.sublist hfirst)
          hchange
      · exact ih (fun a ha => hknown a (hlater.subset ha)) (hsorted.sublist hlater) hrest

/-- **No group comes twice**: the groups of a grid come in the order of their places. -/
theorem groups_increasing {α : Type} (nodes : List (Node α)) :
    (groups (members nodes)).Pairwise Before := by
  refine groups_increasing_of (fun a ha => members_known ha) ?_
  refine (members_sorted nodes).imp fun {a b} hab => ?_
  rcases Prod.Lex.toLex_le_toLex.mp hab with hlt | ⟨heq, -⟩
  · exact Nat.le_of_lt hlt
  · exact Nat.le_of_eq heq

/-! ## Headers -/

section Headers

variable {α : Type} [Measure α] (m : Mesh α)

/-- The id of the header of a group. -/
def headerId (g : NodeGroup) : String := "header-" ++ g.slug

/-- Every section has a header of some group. -/
theorem sections_header (y : α) (gs : List (List Member)) {h : Node α}
    (hmem : h ∈ (sections m y gs).map Section.header) :
    ∃ g count y', h = headerOf m g count y' := by
  fun_induction sections m y gs with
  | case1 y => cases hmem
  | case2 y rest ih => exact ih hmem
  | case3 y first others rest group top cells below ih =>
    rcases List.mem_cons.mp hmem with rfl | hmem
    · exact ⟨first.group, group.length, y, rfl⟩
    · exact ih hmem

theorem sections_ids (y : α) (gs : List (List Member)) :
    (sections m y gs).map (fun s => s.header.id) =
      (gs.filterMap List.head?).map fun a => headerId a.group := by
  fun_induction sections m y gs with
  | case1 y => rfl
  | case2 y rest ih => exact ih
  | case3 y first others rest group top cells below ih =>
    rw [List.map_cons, ih]
    rfl

/-- The headers of a grid have different ids. -/
theorem sections_ids_nodup (y : α) (nodes : List (Node α)) :
    ((sections m y (groups (members nodes))).map fun s => s.header.id).Nodup := by
  rw [sections_ids, List.Nodup, List.pairwise_map, List.pairwise_filterMap]
  refine (groups_increasing nodes).imp_of_mem fun {xs ys} hxs hys hbefore a ha b hb heq => ?_
  have hmember : ∀ {zs : List Member} {c : Member}, zs ∈ groups (members nodes) →
      zs.head? = some c → c.group.Known := fun {zs c} hzs hc => by
    have hmem : c ∈ members nodes := by
      rw [← List.flatten_splitBy (fun a b : Member => a.group == b.group) (members nodes)]
      exact List.mem_flatten.mpr ⟨zs, hzs, List.mem_of_mem_head? hc⟩
    exact members_known hmem
  -- headers with the same id would stand for the same group, which comes only once
  have hgroups := NodeGroup.slug_inj (hmember hxs ha) (hmember hys hb)
    ((String.append_right_inj _).mp heq)
  obtain ⟨hx, hy, hlt⟩ := hbefore
  rw [List.head_of_head?_eq_some ha, List.head_of_head?_eq_some hb, hgroups] at hlt
  exact absurd hlt (Nat.lt_irrefl _)

end Headers

end Grid

end CallAtlas
