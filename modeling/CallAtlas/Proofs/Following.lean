import CallAtlas.Files.Discovery
import CallAtlas.Proofs.Trees
import Mathlib.Data.List.Basic

/-!
# Following paths in changed trees

Following a path asks of each thing on the way only whether it is a file, a directory,
or a link to some target. So a path that leads somewhere leads there in every tree that
keeps what there is (`follow_keeps`), even if files have another content by then, and a
path to a free name leads to what is put there (`follow_free`). Where all files are
empty, the same faults are met and the same files are found (`discover_bare`). All three
are inductions on the way that is followed, with one lemma for the names that it passes
(`Passes.keeps`).
-/

namespace CallAtlas

/-! ## Names as paths -/

namespace Path

/-- A name that can stand in a directory: it is not empty, and nothing in it divides names. -/
def IsName (name : String) : Prop := name ≠ "" ∧ '/' ∉ name.toList

instance (name : String) : Decidable (IsName name) := inferInstanceAs (Decidable (_ ∧ _))

/-- A name alone is a path of one name. -/
theorem names_of_isName {name : String} (hname : IsName name) : names name = [name] := by
  rw [names, List.splitOn_eq_singleton hname.2, List.map_singleton, String.ofList_toList]

/-- A name alone is followed from where paths start. -/
theorem not_isAbsolute_of_isName {name : String} (hname : IsName name) :
    isAbsolute name = false := by
  refine beq_false_of_ne fun hfirst => hname.2 ?_
  exact List.mem_of_mem_head? hfirst

/-- Nothing is above a name alone. -/
theorem parent_of_isName {name : String} (hname : IsName name) : parent name = "" := by
  have hdrop : ∀ cond : String → Bool, (([name].dropWhile cond).drop 1).dropWhile cond = [] := by
    intro cond
    rw [List.dropWhile_cons]
    split <;> rfl
  rw [parent, names_of_isName hname, List.reverse_singleton, hdrop,
    not_isAbsolute_of_isName hname]
  rfl

/-- A path that is not empty, not too long and without a null is in order. -/
theorem fault?_eq_none {path : String} (hpath : path ≠ "") (hnul : '\x00' ∉ path.toList)
    (hshort : path.utf8ByteSize ≤ maxPathBytes) : fault? path = none := by
  have hany : path.any (· == '\x00') = false := by
    rw [String.any, String.contains_bool_eq, List.any_eq_false]
    rintro c hc hzero
    exact hnul (beq_iff_eq.mp hzero ▸ hc)
  have hempty : path.isEmpty = false := Bool.eq_false_iff.mpr (mt String.isEmpty_iff.mp hpath)
  rw [fault?, hany, hempty]
  exact if_neg (Nat.not_lt.mpr hshort)

end Path

namespace Entry

/-- Entries at which paths go on in the same way, but for their members. -/
inductive Alike : Entry → Entry → Prop
  | file (content content' : ByteArray) : Alike (.file content) (.file content')
  | link (target : String) : Alike (.link target) (.link target)
  | directory (ms ms' : List (String × Entry)) : Alike (.directory ms) (.directory ms')

/-- What stands in one entry still stands in the other. -/
def Keeps (root root' : Entry) : Prop :=
  ∀ trail e, root.at? trail = some e → ∃ e', root'.at? trail = some e' ∧ Alike e e'

variable {root root' : Entry} {trail : Trail} {ms ms' : List (String × Entry)}

/-- Whether paths go on alike is seen without the members. -/
theorem Alike.of_shell {e e' : Entry} (h : e.shell.Alike e'.shell) : e.Alike e' := by
  cases e <;> cases e' <;> cases h <;> constructor

/-- An entry without its members is like itself. -/
theorem Alike.shell_self (e : Entry) : e.shell.Alike e.shell := by
  cases e <;> constructor

/-- What stands in an entry is kept if what is seen at the end of each way is kept alike. -/
theorem Keeps.of_look
    (h : ∀ trail s, root.look trail = some s → ∃ s', root'.look trail = some s' ∧ s.Alike s') :
    root.Keeps root' := by
  intro trail e he
  obtain ⟨s', hs', ha⟩ := h trail e.shell (by rw [look, he, Option.map_some])
  obtain ⟨e', he', rfl⟩ := Option.map_eq_some_iff.mp hs'
  exact ⟨e', he', .of_shell ha⟩

/-- All the more if it is kept as it was. -/
theorem Keeps.of_kept
    (h : ∀ trail s, root.look trail = some s → root'.look trail = some s) : root.Keeps root' := by
  refine .of_look fun trail s hs => ⟨s, h trail s hs, ?_⟩
  obtain ⟨e, -, rfl⟩ := Option.map_eq_some_iff.mp hs
  exact .shell_self e

/-- Where a directory was is one still, perhaps with other members. -/
theorem Keeps.directory (hk : root.Keeps root') (hd : root.at? trail = some (.directory ms)) :
    ∃ ms', root'.at? trail = some (.directory ms') := by
  obtain ⟨e', he', ha⟩ := hk trail _ hd
  cases ha with
  | directory _ ms' => exact ⟨ms', he'⟩

/-- A member of a directory has one like it under its name. -/
theorem Keeps.member (hk : root.Keeps root') (hd : root.at? trail = some (.directory ms))
    (hd' : root'.at? trail = some (.directory ms')) {name : String} {c : Entry}
    (hc : member? ms name = some c) : ∃ c', member? ms' name = some c' ∧ c.Alike c' := by
  rw [← at?_member hd] at hc
  rw [← at?_member hd']
  exact hk _ _ hc

end Entry

namespace FileTree

/-! ## One name -/

section

variable {root : Entry} {last : Bool} {links : Nat} {trail : Trail} {ms : List (String × Entry)}
  {name : String} {rest : List String}

/-- Whether a name leads on to a member: it is not too long and no mark for a directory. -/
structure Leading (name : String) : Prop where
  named : ¬(decide (name = "") || decide (name = ".")) = true
  down : ¬name = ".."
  short : ¬Path.maxNameBytes < name.utf8ByteSize

instance (name : String) : Decidable (Leading name) :=
  decidable_of_iff (¬(decide (name = "") || decide (name = ".")) = true ∧ ¬name = ".." ∧
    ¬Path.maxNameBytes < name.utf8ByteSize)
    ⟨fun h => ⟨h.1, h.2.1, h.2.2⟩, fun h => ⟨h.named, h.down, h.short⟩⟩

/-- A name that stands for the same directory is passed over. -/
theorem follow_here (hd : root.at? trail = some (.directory ms))
    (hn : (decide (name = "") || decide (name = ".")) = true) :
    follow root last links trail (name :: rest) = follow root last links trail rest := by
  rw [follow, hd]
  simp only [hn]
  rfl

/-- The name of the directory above leads there, and from the root to the root. -/
theorem follow_up (hd : root.at? trail = some (.directory ms)) :
    follow root last links trail (".." :: rest) = follow root last links trail.dropLast rest := by
  rw [follow, hd]
  rfl

/-- Any other name is looked up among the members: it is free, a link, or something to go on
from. -/
theorem follow_member (hd : root.at? trail = some (.directory ms)) (hn : Leading name) :
    follow root last links trail (name :: rest) =
      match Entry.member? ms name with
      | none => if rest.isEmpty then .ok (.free trail name) else .error .missing
      | some (.link target) =>
        if rest.isEmpty && !last then .ok (.found (trail ++ [name]) (.link target))
        else match links with
          | 0 => .error .manyLinks
          | links + 1 =>
            follow root last links (if Path.isAbsolute target then [] else trail)
              (Path.names target ++ rest)
      | some _ => follow root last links (trail ++ [name]) rest := by
  rw [follow, hd]
  simp only [hn.named, hn.down, hn.short]
  rfl

/-- From where following goes on behind one name: how many links are left, on which way,
and with which names. -/
inductive Passes (root : Entry) (last : Bool) :
    Nat → Trail → List String → Nat → Trail → List String → Prop
  | here {links : Nat} {trail : Trail} {name : String} {rest : List String}
    {ms : List (String × Entry)} (hd : root.at? trail = some (.directory ms))
    (hn : (decide (name = "") || decide (name = ".")) = true) :
    Passes root last links trail (name :: rest) links trail rest
  | up {links : Nat} {trail : Trail} {rest : List String} {ms : List (String × Entry)}
    (hd : root.at? trail = some (.directory ms)) :
    Passes root last links trail (".." :: rest) links trail.dropLast rest
  | link {links : Nat} {trail : Trail} {name : String} {rest : List String}
    {ms : List (String × Entry)} {target : String}
    (hd : root.at? trail = some (.directory ms)) (hn : Leading name)
    (hm : Entry.member? ms name = some (.link target)) (hl : ¬(rest.isEmpty && !last) = true) :
    Passes root last (links + 1) trail (name :: rest) links
      (if Path.isAbsolute target then [] else trail) (Path.names target ++ rest)
  | enter {links : Nat} {trail : Trail} {name : String} {rest : List String}
    {ms : List (String × Entry)} {c : Entry} (hd : root.at? trail = some (.directory ms))
    (hn : Leading name) (hm : Entry.member? ms name = some c) (hc : ∀ target, c ≠ .link target) :
    Passes root last links trail (name :: rest) links (trail ++ [name]) rest

variable {root' : Entry} {links' : Nat} {trail' : Trail} {names names' : List String}

theorem Passes.follow_eq (h : Passes root last links trail names links' trail' names') :
    follow root last links trail names = follow root last links' trail' names' := by
  cases h with
  | here hd hn => rw [follow_here hd hn]
  | up hd => rw [follow_up hd]
  | link hd hn hm hl => simp only [follow_member hd hn, hm, hl]; rfl
  | @enter _ _ _ _ _ c hd hn hm hc =>
    rw [follow_member hd hn, hm]
    cases c with
    | link target => exact absurd rfl (hc target)
    | file _ => rfl
    | directory _ => rfl

/-- Following goes on alike in a tree that keeps what there is, also if links at the end
are followed there. -/
theorem Passes.keeps (h : Passes root last links trail names links' trail' names')
    (hk : root.Keeps root') {last' : Bool} (hlast : last = true → last' = true) :
    Passes root' last' links trail names links' trail' names' := by
  cases h with
  | here hd hn =>
    obtain ⟨ms', hd'⟩ := hk.directory hd
    exact .here hd' hn
  | up hd =>
    obtain ⟨ms', hd'⟩ := hk.directory hd
    exact .up hd'
  -- A link that is followed although it ends the path is followed with `last'`, too.
  | @link _ _ _ rest _ _ hd hn hm hl =>
    obtain ⟨ms', hd'⟩ := hk.directory hd
    obtain ⟨_, hm', ⟨⟩⟩ := hk.member hd hd' hm
    refine .link hd' hn hm' fun h => hl ?_
    cases last with
    | false => rw [(Bool.and_eq_true_iff.mp h).1]; rfl
    | true => rw [hlast rfl] at h; exact h
  | enter hd hn hm hc =>
    obtain ⟨ms', hd'⟩ := hk.directory hd
    obtain ⟨c', hm', ha⟩ := hk.member hd hd' hm
    refine .enter hd' hn hm' ?_
    rintro target rfl
    cases ha
    exact hc target rfl

end

/-! ## Trees that keep what there is -/

section

variable {root root' : Entry} {last : Bool} {links : Nat} {trail way : Trail}
  {names : List String} {name : String} {e : Entry}

/-- A path that leads to something leads there in a tree that keeps what there is. -/
theorem follow_keeps (hk : root.Keeps root')
    (h : follow root last links trail names = .ok (.found way e)) :
    ∃ e', root'.at? way = some e' ∧ follow root' last links trail names = .ok (.found way e') := by
  fun_induction follow root last links trail names with
  | case1 links trail e he =>
    obtain ⟨e', he', -⟩ := hk _ _ he
    cases h
    exact ⟨e', he', by rw [follow, he']⟩
  | case3 links trail name rest ms hd hn ih =>
    rw [((Passes.here hd hn).keeps hk id).follow_eq]
    exact ih h
  | case4 links trail rest ms hd hn ih =>
    rw [((Passes.up hd).keeps hk id).follow_eq]
    exact ih h
  | case8 links trail name rest ms hd hn hup hlong target hm hl =>
    -- A link at the end of the path that is not followed.
    obtain ⟨ms', hd'⟩ := hk.directory hd
    obtain ⟨_, hm', ⟨⟩⟩ := hk.member hd hd' hm
    cases h
    refine ⟨.link target, by rw [Entry.at?_member hd', hm'], ?_⟩
    simp only [follow_member hd' ⟨hn, hup, hlong⟩, hm', hl, if_true]
  | case10 trail name rest ms hd hn hup hlong target hm hl links start ih =>
    rw [((Passes.link hd ⟨hn, hup, hlong⟩ hm hl).keeps hk id).follow_eq]
    exact ih h
  | case11 links trail name rest ms hd hn hup hlong c hc hm ih =>
    rw [((Passes.enter hd ⟨hn, hup, hlong⟩ hm hc).keeps hk id).follow_eq]
    exact ih h
  | _ => cases h

/-- A path to a free name leads to what has been put there since. -/
theorem follow_free (hk : root.Keeps root')
    (h : follow root last links trail names = .ok (.free way name))
    (he : root'.at? (way ++ [name]) = some e) (hlink : ∀ target, e ≠ .link target) :
    follow root' true links trail names = .ok (.found (way ++ [name]) e) := by
  fun_induction follow root last links trail names with
  | case3 links trail name rest ms hd hn ih =>
    have hpass : Passes root last links trail (name :: rest) links trail rest := .here hd hn
    rw [(hpass.keeps hk fun _ => rfl).follow_eq]
    exact ih h
  | case4 links trail rest ms hd hn ih =>
    have hpass : Passes root last links trail (".." :: rest) links trail.dropLast rest := .up hd
    rw [(hpass.keeps hk fun _ => rfl).follow_eq]
    exact ih h
  | case6 links trail name rest ms hd hn hup hlong hm hrest =>
    -- The name that was free: what stands there now is entered, and the path ends.
    cases h
    obtain ⟨ms', hd'⟩ := hk.directory hd
    have hm' := he
    rw [Entry.at?_member hd'] at hm'
    rw [(Passes.enter hd' ⟨hn, hup, hlong⟩ hm' hlink).follow_eq, List.isEmpty_iff.mp hrest,
      follow, he]
  | case10 trail name rest ms hd hn hup hlong target hm hl links start ih =>
    rw [((Passes.link hd ⟨hn, hup, hlong⟩ hm hl).keeps hk fun _ => rfl).follow_eq]
    exact ih h
  | case11 links trail name rest ms hd hn hup hlong c hc hm ih =>
    have hpass : Passes root last links trail (name :: rest) links (trail ++ [name]) rest :=
      .enter hd ⟨hn, hup, hlong⟩ hm hc
    rw [(hpass.keeps hk fun _ => rfl).follow_eq]
    exact ih h
  | _ => cases h

/-- A goal as it stands in a tree: something is there, or a name is free in a directory. -/
def Goal.Stands (root : Entry) : Goal → Prop
  | .found trail e => root.at? trail = some e
  | .free trail name => ∃ ms, root.at? trail = some (.directory ms) ∧ Entry.member? ms name = none

/-- Following a path ends at what stands there, or at a name that is free. -/
theorem follow_stands {goal : Goal} (h : follow root last links trail names = .ok goal) :
    goal.Stands root := by
  fun_induction follow root last links trail names
  case case1 links trail e he =>
    cases h
    exact he
  case case6 links trail name rest ms hd hn hup hlong hm hrest =>
    cases h
    exact ⟨ms, hd, hm⟩
  case case8 links trail name rest ms hd hn hup hlong target hm hl =>
    cases h
    exact (Entry.at?_member hd name).trans hm
  case case3 ih | case4 ih | case10 ih | case11 ih => exact ih h
  all_goals cases h

end

section

variable {t t' : FileTree} {path : String} {last : Bool} {way : Trail} {name : String} {e : Entry}

theorem goal_stands {goal : Goal} (h : t.goal path last = .ok goal) : goal.Stands t.root := by
  unfold FileTree.goal at h
  split at h
  · cases h
  · exact follow_stands h

/-- What a path finds is where it leads if links at its end are followed. -/
theorem find_eq_ok_iff : t.find path = .ok (way, e) ↔ t.goal path true = .ok (.found way e) := by
  unfold find
  constructor
  · intro h
    split at h <;> cases h
    assumption
  · intro h
    rw [h]

/-- A path from the same directory leads to the same place in a tree that keeps what there is. -/
theorem goal_keeps (hk : t.root.Keeps t'.root) (hh : t'.home = t.home)
    (h : t.goal path last = .ok (.found way e)) :
    ∃ e', t'.root.at? way = some e' ∧ t'.goal path last = .ok (.found way e') := by
  unfold FileTree.goal at h ⊢
  rw [hh]
  cases hf : Path.fault? path with
  | some f => rw [hf] at h; cases h
  | none => rw [hf] at h; exact follow_keeps hk h

/-- What a path finds is found in a tree that keeps what there is, perhaps with another
content. -/
theorem find_keeps (hk : t.root.Keeps t'.root) (hh : t'.home = t.home)
    (h : t.find path = .ok (way, e)) :
    ∃ e', t'.root.at? way = some e' ∧ t'.find path = .ok (way, e') := by
  obtain ⟨e', he', hg⟩ := goal_keeps hk hh (find_eq_ok_iff.mp h)
  exact ⟨e', he', find_eq_ok_iff.mpr hg⟩

/-- A path to a free name finds what has been put there since, if that is no link. -/
theorem find_free (hk : t.root.Keeps t'.root) (hh : t'.home = t.home)
    (h : t.goal path last = .ok (.free way name)) (he : t'.root.at? (way ++ [name]) = some e)
    (hlink : ∀ target, e ≠ .link target) : t'.find path = .ok (way ++ [name], e) := by
  rw [find_eq_ok_iff]
  unfold FileTree.goal at h ⊢
  rw [hh]
  cases hf : Path.fault? path with
  | some f => rw [hf] at h; cases h
  | none => rw [hf] at h; exact follow_free hk h he hlink

end

/-! ## A name alone -/

/-- Whether a name alone is a path that leads to a member of the directory where paths
start. -/
structure Plain (name : String) : Prop extends Leading name where
  isName : Path.IsName name
  noNull : '\x00' ∉ name.toList

instance (name : String) : Decidable (Plain name) :=
  decidable_of_iff (Leading name ∧ Path.IsName name ∧ '\x00' ∉ name.toList)
    ⟨fun h => ⟨h.1, h.2.1, h.2.2⟩, fun h => ⟨h.toLeading, h.isName, h.noNull⟩⟩

section

variable {t : FileTree} {name : String} {ms : List (String × Entry)}

/-- A name alone leads to what stands under it, unless that is a link, or is free. -/
theorem goal_name {last : Bool} (hname : Plain name)
    (hd : t.root.at? t.home = some (.directory ms))
    (hlink : ∀ target, Entry.member? ms name ≠ some (.link target)) :
    t.goal name last = match Entry.member? ms name with
      | some e => .ok (.found (t.home ++ [name]) e)
      | none => .ok (.free t.home name) := by
  have hfault : Path.fault? name = none :=
    Path.fault?_eq_none hname.isName.1 hname.noNull
      (Nat.le_trans (Nat.not_lt.mp hname.short) (by decide))
  have hgoal : t.goal name last = follow t.root last Path.maxLinks t.home [name] := by
    simp only [goal, hfault, Path.not_isAbsolute_of_isName hname.isName,
      Path.names_of_isName hname.isName]
    rfl
  rw [hgoal]
  cases hm : Entry.member? ms name with
  | none =>
    rw [follow_member hd hname.toLeading, hm]
    rfl
  | some e =>
    have hhere : t.root.at? (t.home ++ [name]) = some e := by rw [Entry.at?_member hd, hm]
    rw [(Passes.enter hd hname.toLeading hm fun target he => hlink target (he ▸ hm)).follow_eq,
      follow, hhere]

/-- What stands under a name alone is what is found. -/
theorem find_name (hname : Plain name) (hd : t.root.at? t.home = some (.directory ms))
    (hlink : ∀ target, Entry.member? ms name ≠ some (.link target)) :
    t.find name = match Entry.member? ms name with
      | some e => .ok (t.home ++ [name], e)
      | none => .error .missing := by
  rw [find, goal_name hname hd hlink]
  cases Entry.member? ms name <;> rfl

end

/-! ## Trees with empty files -/

/-- A goal in the tree with empty files. -/
def Goal.bare : Goal → Goal
  | .found trail e => .found trail e.bare
  | .free trail name => .free trail name

/-- A tree with empty files. -/
def bare (t : FileTree) : FileTree := ⟨t.root.bare, t.home⟩

/-- A directory is still one when its files are emptied, with its members emptied. -/
theorem at?_bare_directory {root : Entry} {trail : Trail} {ms : List (String × Entry)}
    (h : root.at? trail = some (.directory ms)) :
    root.bare.at? trail = some (.directory (Entry.bareAll ms)) := by
  rw [Entry.at?_bare, h, Option.map_some, Entry.bare_directory]

/-- Emptying all files keeps what there is. -/
theorem keeps_bare (root : Entry) : root.Keeps root.bare := by
  intro trail e he
  refine ⟨e.bare, by rw [Entry.at?_bare, he]; rfl, ?_⟩
  cases e with
  | file content => rw [Entry.bare_file]; exact .file content _
  | link target => rw [Entry.bare_link]; exact .link target
  | directory ms => rw [Entry.bare_directory]; exact .directory ms _

/-- Following a path comes to the same end if all files are empty, and to the same fault. The
induction is on the names that are passed; the cases of a fault are compared one by one, since
only ways to something are kept by `Keeps`. -/
theorem follow_bare (root : Entry) (last : Bool) (links : Nat) (trail : Trail)
    (names : List String) :
    follow root.bare last links trail names = (follow root last links trail names).map .bare := by
  have hk := keeps_bare root
  fun_induction follow root last links trail names with
  | case1 links trail e he => rw [follow, Entry.at?_bare, he]; rfl
  | case2 links trail he => rw [follow, Entry.at?_bare, he]; rfl
  | case3 links trail name rest ms hd hn ih =>
    rw [((Passes.here hd hn).keeps hk id).follow_eq, ih]
  | case4 links trail rest ms hd hn ih => rw [((Passes.up hd).keeps hk id).follow_eq, ih]
  | case5 links trail name rest ms hd hn hup hlong =>
    rw [follow, at?_bare_directory hd]
    simp only [hn, hup, hlong]
    rfl
  -- nothing stands under the name: it is free, or more names were to come behind it
  | case6 links trail name rest ms hd hn hup hlong hm hrest
  | case7 links trail name rest ms hd hn hup hlong hm hrest =>
    simp only [follow_member (at?_bare_directory hd) ⟨hn, hup, hlong⟩, Entry.member?_bareAll, hm,
      hrest]
    rfl
  | case8 links trail name rest ms hd hn hup hlong target hm hl
  | case9 trail name rest ms hd hn hup hlong target hm hl =>
    simp only [follow_member (at?_bare_directory hd) ⟨hn, hup, hlong⟩, Entry.member?_bareAll, hm,
      hl]
    rfl
  | case10 trail name rest ms hd hn hup hlong target hm hl links start ih =>
    rw [((Passes.link hd ⟨hn, hup, hlong⟩ hm hl).keeps hk id).follow_eq]
    exact ih
  | case11 links trail name rest ms hd hn hup hlong c hc hm ih =>
    rw [((Passes.enter hd ⟨hn, hup, hlong⟩ hm hc).keeps hk id).follow_eq, ih]
  | case12 links trail name rest e he h =>
    rw [follow, Entry.at?_bare, h]
    cases e with
    | directory ms => exact absurd rfl (he ms)
    | file _ => rfl
    | link _ => rfl
  | case13 links trail name rest h => rw [follow, Entry.at?_bare, h]; rfl

theorem goal_bare (t : FileTree) (path : String) (last : Bool) :
    t.bare.goal path last = (t.goal path last).map .bare := by
  unfold FileTree.goal
  split
  · rfl
  · exact follow_bare t.root last _ _ _

theorem find_bare (t : FileTree) (path : String) :
    t.bare.find path = (t.find path).map fun found => (found.1, found.2.bare) := by
  unfold find
  rw [goal_bare]
  rcases t.goal path true with f | ⟨⟨trail, e⟩ | ⟨trail, name⟩⟩ <;> rfl

theorem isFileAt_bare (t : FileTree) (path : String) (e : Entry) :
    t.bare.isFileAt path e.bare = t.isFileAt path e := by
  cases e with
  | file content => rw [Entry.bare_file, isFileAt, isFileAt]
  | directory ms => rw [Entry.bare_directory, isFileAt, isFileAt]
  | link target =>
    rw [Entry.bare_link, isFileAt, isFileAt, isFile, isFile, find_bare]
    rcases t.find path with f | ⟨trail, e⟩
    · rfl
    · cases e with
      | file content => simp only [Except.map, Entry.bare_file]
      | directory ms => simp only [Except.map, Entry.bare_directory]
      | link target => simp only [Except.map, Entry.bare_link]

theorem entered?_bare (t : FileTree) (around : List Trail) (path : String) (e : Entry) :
    t.bare.entered? around path e.bare =
      (t.entered? around path e).map fun found => (found.1, Entry.bareAll found.2) := by
  have hlink : e.bare.isLink = e.isLink := by
    cases e <;> simp only [Entry.bare_file, Entry.bare_link, Entry.bare_directory, Entry.isLink]
  rw [entered?, entered?, find_bare, hlink]
  rcases t.find path with f | ⟨goal, found⟩
  · rfl
  · cases found with
    | file content => simp only [Except.map, Entry.bare_file, Option.map_none]
    | link target => simp only [Except.map, Entry.bare_link, Option.map_none]
    | directory inner =>
      simp only [Except.map, Entry.bare_directory]
      split <;> rfl

section

variable (readable : Trail → Bool)

theorem seen_bareAll (trail : Trail) (ms : List (String × Entry)) :
    seen readable trail (Entry.bareAll ms) = Entry.bareAll (seen readable trail ms) := by
  unfold seen
  split
  · rfl
  · rw [Entry.bareAll]

/-- The same files stand below a directory if all are empty. -/
theorem filesBelow_bare (t : FileTree) (depth : Nat) (around : List Trail) (path : String)
    (ms : List (String × Entry)) :
    t.bare.filesBelow readable depth around path (Entry.bareAll ms) =
      t.filesBelow readable depth around path ms := by
  induction depth generalizing around path ms with
  | zero => rfl
  | succ depth ih =>
    rw [filesBelow, filesBelow, Entry.bareAll_eq_map, List.flatMap_map]
    refine List.flatMap_congr fun m _ => ?_
    obtain ⟨name, e⟩ := m
    simp only [isFileAt_bare, entered?_bare]
    cases t.entered? around (Path.join path name) e with
    | none => rfl
    | some found => simp only [Option.map_some, seen_bareAll, ih]

theorem filesOf_bare (t : FileTree) (s : Selection) (path : String) (trail : Trail)
    (ms : List (String × Entry)) :
    t.bare.filesOf readable s path trail (Entry.bareAll ms) =
      t.filesOf readable s path trail ms := by
  unfold filesOf
  rw [seen_bareAll, filesBelow_bare]

/-- The files to which paths lead do not depend on what is in them. -/
theorem discover_bare (t : FileTree) (s : Selection) (paths : List String) :
    t.bare.discover readable s paths = t.discover readable s paths := by
  induction paths with
  | nil => rfl
  | cons path rest ih =>
    rw [discover, discover, find_bare, ih]
    rcases t.find path with f | ⟨trail, e⟩
    · rfl
    · cases e with
      | file content => simp only [Except.map, Entry.bare_file]
      | directory ms =>
        simp only [Except.map, Entry.bare_directory, Entry.members?, Option.getD_some, filesOf_bare]
      | link target =>
        have hnone := filesOf_bare readable t s path trail []
        rw [Entry.bareAll] at hnone
        simp only [Except.map, Entry.bare_link, Entry.members?, Option.getD_none, hnone]

end

end FileTree

end CallAtlas
