import CallAtlas.Proofs.Following
import Mathlib.Data.List.Induction
import Mathlib.Data.List.Nodup

/-!
# Walks through directories

`Meets` says which files a walk below a path meets, and by which names: those that are
listed in a directory to which the walk comes (`Enters`), as a file or as a link that leads
to one. A walk comes to a directory through directories and links to directories, unless a
link leads back into one of the directories on the way to it. What cannot be looked up by
its whole path is passed over, and so is what stands in a directory whose names cannot be
read.

`mem_filesBelow_iff`: the files below a directory are those that a walk meets. The walk
remembers which directories it is in (`Walking`), each name that it adds makes its path
longer, and a path that can be looked up is short, so it ends before its depth does.
-/

namespace CallAtlas

namespace Entry

/-- What a file system can hold: in each directory the names are distinct. -/
inductive WellNamed : Entry → Prop
  | file (content : ByteArray) : WellNamed (.file content)
  | link (target : String) : WellNamed (.link target)
  | directory {ms : List (String × Entry)} (distinct : (ms.map Prod.fst).Nodup)
    (names : ∀ m ∈ ms, Path.IsName m.1) (members : ∀ m ∈ ms, WellNamed m.2) :
    WellNamed (.directory ms)

variable {e c : Entry} {ms : List (String × Entry)} {name : String} {trail : Trail}

/-- What stands under a name is a member with that name. -/
theorem mem_of_member? (h : member? ms name = some c) : (name, c) ∈ ms := by
  obtain ⟨m, hm, rfl⟩ := Option.map_eq_some_iff.mp h
  obtain ⟨hname, before, after, rfl, -⟩ := List.find?_eq_some_iff_append.mp hm
  rw [← beq_iff_eq.mp hname]
  exact List.mem_append_right _ (List.mem_cons_self ..)

/-- Whatever stands in a tree that a file system can hold is such a tree itself. -/
theorem WellNamed.at? (h : e.WellNamed) (hc : e.at? trail = some c) : c.WellNamed := by
  induction trail generalizing e with
  | nil =>
    rw [at?_nil] at hc
    rwa [← Option.some.inj hc]
  | cons name rest ih =>
    rw [at?_cons] at hc
    obtain ⟨inner, hinner, hrest⟩ := Option.bind_eq_some_iff.mp hc
    cases h with
    | file content => cases hinner
    | link target => cases hinner
    | directory _ _ hmembers => exact ih (hmembers _ (mem_of_member? hinner)) hrest

end Entry

/-! ## Paths -/

namespace Path

/-- A name makes a path longer. -/
theorem utf8ByteSize_lt_join {name : String} (path : String) (hname : name ≠ "") :
    path.utf8ByteSize < (join path name).utf8ByteSize := by
  have hpos : 0 < name.utf8ByteSize :=
    Nat.pos_of_ne_zero (mt String.utf8ByteSize_eq_zero_iff.mp hname)
  unfold join
  split
  · rw [String.utf8ByteSize_append]
    exact Nat.lt_add_of_pos_right hpos
  · rw [String.utf8ByteSize_append, String.utf8ByteSize_append, Nat.add_assoc]
    exact Nat.lt_add_of_pos_right (Nat.add_pos_right _ hpos)

/-- One name more leads on from where the others lead. -/
theorem along_concat (path : String) (names : List String) (name : String) :
    along path (names ++ [name]) = join (along path names) name := List.foldl_concat ..

end Path

namespace FileTree

variable {t : FileTree} {readable : Trail → Bool} {path : String}

/-- Where a path leads. -/
def place? (t : FileTree) (path : String) : Option Trail :=
  match t.find path with
  | .ok (place, _) => some place
  | .error _ => none

theorem isFile_iff :
    t.isFile path = true ↔ ∃ place content, t.find path = .ok (place, .file content) := by
  unfold isFile
  split
  · next place content h => exact ⟨fun _ => ⟨place, content, h⟩, fun _ => rfl⟩
  · next hno => exact ⟨nofun, fun ⟨place, content, h⟩ => absurd h (hno place content)⟩

theorem isDirectory_iff :
    t.isDirectory path = true ↔ ∃ place ms, t.find path = .ok (place, .directory ms) := by
  unfold isDirectory
  split
  · next place ms h => exact ⟨fun _ => ⟨place, ms, h⟩, fun _ => rfl⟩
  · next hno => exact ⟨nofun, fun ⟨place, ms, h⟩ => absurd h (hno place ms)⟩

/-- A path that can be looked up is not empty and not too long. -/
theorem size_of_find {found : Trail × Entry} (h : t.find path = .ok found) :
    0 < path.utf8ByteSize ∧ path.utf8ByteSize ≤ Path.maxPathBytes := by
  have hnone : Path.fault? path = none := by
    cases hfault : Path.fault? path with
    | none => rfl
    | some fault =>
      rw [find, goal, hfault] at h
      cases h
  unfold Path.fault? at hnone
  split at hnone
  · cases hnone
  · split at hnone
    · cases hnone
    · next hempty =>
      refine ⟨Nat.pos_of_ne_zero fun hzero => hempty ?_, ?_⟩
      · exact String.isEmpty_iff.mpr (String.utf8ByteSize_eq_zero_iff.mp hzero)
      · split at hnone
        · cases hnone
        · next hlong => exact Nat.le_of_not_lt hlong

/-- What a path finds in a tree that a file system can hold is one itself. -/
theorem find_wellNamed (ht : t.root.WellNamed) {place : Trail} {e : Entry}
    (h : t.find path = .ok (place, e)) : e.WellNamed :=
  ht.at? (goal_stands (find_eq_ok_iff.mp h))

/-! ## What a walk meets -/

section

variable (t : FileTree) (readable : Trail → Bool) (path : String)

/-- What is listed under a name in the directory to which some names lead from a path. -/
def Lists (names : List String) (name : String) (e : Entry) : Prop :=
  ∃ place ms, t.find (Path.along path names) = .ok (place, .directory ms) ∧
    readable place = true ∧ (name, e) ∈ ms

/-- Whether a name leads to one of the directories on the way to it. -/
def Loops (names : List String) (name : String) : Prop :=
  ∃ earlier, earlier <+: names ∧
    t.place? (Path.along path earlier) = t.place? (Path.along path (names ++ [name]))

/-- The names by which a walk below a path comes to directories. -/
inductive Enters : List String → Prop
  | start (here : t.isDirectory path = true) : Enters []
  | directory {names : List String} {name : String} {ms : List (String × Entry)}
    (enters : Enters names) (lists : t.Lists readable path names name (.directory ms))
    (there : t.isDirectory (Path.along path (names ++ [name])) = true) : Enters (names ++ [name])
  | link {names : List String} {name target : String}
    (enters : Enters names) (lists : t.Lists readable path names name (.link target))
    (there : t.isDirectory (Path.along path (names ++ [name])) = true)
    (new : ¬ t.Loops path names name) : Enters (names ++ [name])

/-- The names by which a walk below a path comes to files. -/
inductive Meets : List String → Prop
  | file {names : List String} {name : String} {content : ByteArray}
    (enters : t.Enters readable path names)
    (lists : t.Lists readable path names name (.file content)) : Meets (names ++ [name])
  | link {names : List String} {name target : String}
    (enters : t.Enters readable path names)
    (lists : t.Lists readable path names name (.link target))
    (there : t.isFile (Path.along path (names ++ [name])) = true) : Meets (names ++ [name])

end

variable {names : List String} {name : String}

/-- A walk meets a file by its last name: it comes to the directory, and what is listed there is a
file or leads to one. -/
theorem meets_concat_iff : t.Meets readable path (names ++ [name]) ↔
    t.Enters readable path names ∧ ∃ e, t.Lists readable path names name e ∧
      t.isFileAt (Path.along path (names ++ [name])) e = true := by
  constructor
  · intro h
    generalize hway : names ++ [name] = way at h
    cases h with
    | file henters hlists =>
      obtain ⟨rfl, ⟨⟩⟩ := List.append_inj' hway rfl
      exact ⟨henters, _, hlists, rfl⟩
    | link henters hlists hthere =>
      obtain ⟨rfl, ⟨⟩⟩ := List.append_inj' hway rfl
      exact ⟨henters, _, hlists, hthere⟩
  · rintro ⟨henters, e, hlists, hfile⟩
    cases e with
    | file content => exact .file henters hlists
    | link target => exact .link henters hlists hfile
    | directory ms => cases hfile

/-- A walk comes to a directory by its last name: what is listed is no file, it leads to a
directory, and if it is a link then not to one on the way. -/
theorem enters_concat_iff : t.Enters readable path (names ++ [name]) ↔
    t.Enters readable path names ∧ ∃ e, t.Lists readable path names name e ∧
      t.isFileAt (Path.along path (names ++ [name])) e = false ∧
      t.isDirectory (Path.along path (names ++ [name])) = true ∧
      (e.isLink = true → ¬ t.Loops path names name) := by
  have hnofile : t.isDirectory (Path.along path (names ++ [name])) = true →
      t.isFile (Path.along path (names ++ [name])) = false := by
    intro h
    obtain ⟨place, ms, h⟩ := isDirectory_iff.mp h
    rw [isFile, h]
  constructor
  · intro h
    generalize hway : names ++ [name] = way at h
    cases h with
    | start => exact absurd hway (List.concat_ne_nil _ _)
    | directory henters hlists hthere =>
      obtain ⟨rfl, ⟨⟩⟩ := List.append_inj' hway rfl
      exact ⟨henters, _, hlists, rfl, hthere, fun hlink => absurd hlink Bool.false_ne_true⟩
    | link henters hlists hthere hnew =>
      obtain ⟨rfl, ⟨⟩⟩ := List.append_inj' hway rfl
      exact ⟨henters, _, hlists, hnofile hthere, hthere, fun _ => hnew⟩
  · rintro ⟨henters, e, hlists, hfile, hthere, hnew⟩
    cases e with
    | file content => cases hfile
    | directory ms => exact .directory henters hlists hthere
    | link target => exact .link henters hlists hthere (hnew rfl)

/-- A walk comes to all directories on its way. -/
theorem Enters.of_append {rest : List String} (h : t.Enters readable path (names ++ rest)) :
    t.Enters readable path names := by
  induction rest using List.reverseRecOn with
  | nil => rwa [List.append_nil] at h
  | append_singleton rest name ih =>
    rw [← List.append_assoc] at h
    exact ih (enters_concat_iff.mp h).1

/-- A walk that meets a file has come to all directories on the way to it. -/
theorem Meets.enters_of_append {rest : List String} (h : t.Meets readable path (names ++ rest))
    (hrest : rest ≠ []) : t.Enters readable path names := by
  rw [← List.dropLast_append_getLast hrest, ← List.append_assoc] at h
  exact (meets_concat_iff.mp h).1.of_append

/-- What is listed has a name. -/
theorem Lists.isName (ht : t.root.WellNamed) {e : Entry}
    (h : t.Lists readable path names name e) : Path.IsName name := by
  obtain ⟨place, ms, hfound, -, hmem⟩ := h
  cases find_wellNamed ht hfound with
  | directory _ hnames _ => exact hnames _ hmem

theorem Enters.isName (ht : t.root.WellNamed) (h : t.Enters readable path names) :
    ∀ name ∈ names, Path.IsName name := by
  induction h with
  | start => exact fun name hname => nomatch hname
  | directory _ hlists _ ih | link _ hlists _ _ ih =>
    rw [List.forall_mem_append, List.forall_mem_singleton]
    exact ⟨ih, hlists.isName ht⟩

theorem Meets.isName (ht : t.root.WellNamed) (h : t.Meets readable path names) :
    ∀ name ∈ names, Path.IsName name := by
  cases h with
  | file henters hlists | link henters hlists _ =>
    rw [List.forall_mem_append, List.forall_mem_singleton]
    exact ⟨henters.isName ht, hlists.isName ht⟩

/-- A file is met below the path and not at it. -/
theorem Meets.ne_nil (h : t.Meets readable path names) : names ≠ [] := by
  cases h <;> exact List.concat_ne_nil _ _

/-! ## The state of a walk -/

/-- The members that a walk gets to see are those of a directory that can be read. -/
theorem mem_seen_iff {place : Trail} {ms : List (String × Entry)} {m : String × Entry} :
    m ∈ seen readable place ms ↔ readable place = true ∧ m ∈ ms := by
  unfold seen
  split <;> simp [*]

theorem wellNamed_seen {place : Trail} {ms : List (String × Entry)}
    (h : (Entry.directory ms).WellNamed) :
    (Entry.directory (seen readable place ms)).WellNamed := by
  unfold seen
  split
  · exact h
  · exact .directory List.nodup_nil (fun m hm => nomatch hm) fun m hm => nomatch hm

/-- A walk goes into the directory to which a path leads, unless it comes by a link and is already
in it. -/
theorem entered?_eq_some_iff {around : List Trail} {e : Entry} {goal : Trail}
    {inner : List (String × Entry)} : t.entered? around path e = some (goal, inner) ↔
      t.find path = .ok (goal, .directory inner) ∧ (e.isLink = true → goal ∉ around) := by
  unfold entered?
  split
  · next place ms h =>
    rw [h]
    by_cases hback : (e.isLink && around.contains place) = true
    · rw [if_pos hback]
      rw [Bool.and_eq_true, List.contains_iff_mem] at hback
      refine ⟨nofun, fun ⟨hsame, hnew⟩ => ?_⟩
      cases hsame
      exact absurd hback.2 (hnew hback.1)
    · rw [if_neg hback]
      rw [Bool.and_eq_true, List.contains_iff_mem, not_and] at hback
      refine ⟨fun hsame => ?_, fun ⟨hsame, _⟩ => ?_⟩
      · cases hsame
        exact ⟨rfl, hback⟩
      · cases hsame
        rfl
  · next hno => exact ⟨nofun, fun ⟨h, _⟩ => absurd h (hno goal inner)⟩

/-- What is met under a name begins with it. -/
theorem head?_of_mem {way : Trail} {isFile : Bool}
    {inner : Option (Trail × List (String × Entry))}
    {below : Trail → List (String × Entry) → List Trail}
    (h : way ∈ if isFile = true then [[name]] else match inner with
      | some (goal, ms) => (below goal ms).map (name :: ·)
      | none => []) : way.head? = some name := by
  cases isFile with
  | true =>
    rw [if_pos rfl, List.mem_singleton] at h
    rw [h, List.head?_cons]
  | false =>
    rw [if_neg Bool.false_ne_true] at h
    cases inner with
    | none => cases h
    | some found =>
      obtain ⟨more, -, rfl⟩ := List.mem_map.mp h
      rw [List.head?_cons]

/-- The walk is in the directory to which some names lead, with `around` as the directories on
the way there and with `ms` still to be gone through. -/
structure Walking (t : FileTree) (readable : Trail → Bool) (path : String)
    (names : List String) (around : List Trail) (ms : List (String × Entry)) : Prop where
  enters : t.Enters readable path names
  found : ∃ place inner, t.find (Path.along path names) = .ok (place, .directory inner) ∧
    ms = seen readable place inner
  mem_around : ∀ goal, goal ∈ around ↔
    ∃ earlier, earlier <+: names ∧ t.place? (Path.along path earlier) = some goal

namespace Walking

variable {around : List Trail} {ms : List (String × Entry)}

/-- A walk begins in the directory to which its path leads. -/
theorem start {place : Trail} (h : t.find path = .ok (place, .directory ms)) :
    t.Walking readable path [] [place] (seen readable place ms) where
  enters := .start (isDirectory_iff.mpr ⟨place, ms, h⟩)
  found := ⟨place, ms, h, rfl⟩
  mem_around goal := by
    have hplace : t.place? (Path.along path []) = some place := by
      rw [Path.along, List.foldl_nil, place?, h]
    simp only [List.prefix_nil, exists_eq_left, hplace, Option.some_inj, List.mem_singleton]
    exact eq_comm

/-- What the directory lists is among what is to be gone through. -/
theorem lists_iff (h : t.Walking readable path names around ms) {e : Entry} :
    t.Lists readable path names name e ↔ (name, e) ∈ ms := by
  obtain ⟨place, inner, hfound, rfl⟩ := h.found
  rw [mem_seen_iff]
  constructor
  · rintro ⟨place', inner', hfound', hmem⟩
    rw [hfound] at hfound'
    cases hfound'
    exact hmem
  · exact fun hmem => ⟨place, inner, hfound, hmem⟩

/-- A directory is one of those on the way just if the name loops. -/
theorem loops_iff (h : t.Walking readable path names around ms) {goal : Trail} {e : Entry}
    (hfound : t.find (Path.along path (names ++ [name])) = .ok (goal, e)) :
    t.Loops path names name ↔ goal ∈ around := by
  have hplace : t.place? (Path.along path (names ++ [name])) = some goal := by
    rw [place?, hfound]
  rw [h.mem_around, Loops, hplace]

/-- The files that a walk meets in the directory where it is are among the members that it still
has to go through. -/
theorem meets_iff (h : t.Walking readable path names around ms) :
    t.Meets readable path (names ++ [name]) ↔
      ∃ e, (name, e) ∈ ms ∧ t.isFileAt (Path.along path (names ++ [name])) e = true := by
  rw [meets_concat_iff]
  simp only [h.enters, true_and, h.lists_iff]

/-- The directories that it comes to from there are those that it goes into, with what it
remembers of the way. -/
theorem enters_iff (h : t.Walking readable path names around ms) :
    t.Enters readable path (names ++ [name]) ↔
      ∃ e, (name, e) ∈ ms ∧ t.isFileAt (Path.along path (names ++ [name])) e = false ∧
        ∃ goal inner, t.entered? around (Path.along path (names ++ [name])) e =
          some (goal, inner) := by
  rw [enters_concat_iff]
  simp only [h.enters, true_and, h.lists_iff, isDirectory_iff, entered?_eq_some_iff]
  refine exists_congr fun e => and_congr_right fun _ => and_congr_right fun _ => ?_
  constructor
  · rintro ⟨⟨goal, inner, hfound⟩, hnew⟩
    exact ⟨goal, inner, hfound, fun hlink => mt (h.loops_iff hfound).mpr (hnew hlink)⟩
  · rintro ⟨goal, inner, hfound, hnew⟩
    exact ⟨⟨goal, inner, hfound⟩, fun hlink => mt (h.loops_iff hfound).mp (hnew hlink)⟩

/-- A step into a directory. -/
theorem enter (h : t.Walking readable path names around ms) {goal : Trail} {e : Entry}
    {inner : List (String × Entry)} (hmem : (name, e) ∈ ms)
    (hfile : t.isFileAt (Path.along path (names ++ [name])) e = false)
    (hinner : t.entered? around (Path.along path (names ++ [name])) e = some (goal, inner)) :
    t.Walking readable path (names ++ [name]) (goal :: around) (seen readable goal inner) where
  enters := h.enters_iff.mpr ⟨e, hmem, hfile, goal, inner, hinner⟩
  found := ⟨goal, inner, (entered?_eq_some_iff.mp hinner).1, rfl⟩
  mem_around other := by
    have hplace : t.place? (Path.along path (names ++ [name])) = some goal := by
      rw [place?, (entered?_eq_some_iff.mp hinner).1]
    simp only [List.prefix_concat_iff, or_and_right, exists_or, exists_eq_left, hplace,
      Option.some_inj, List.mem_cons, h.mem_around, eq_comm]

/-- The members that it goes through are those of a tree that a file system can hold. -/
theorem wellNamed (h : t.Walking readable path names around ms) (ht : t.root.WellNamed) :
    (Entry.directory ms).WellNamed := by
  obtain ⟨place, inner, hfound, rfl⟩ := h.found
  exact wellNamed_seen (find_wellNamed ht hfound)

/-- Each name that the walk adds makes its path longer, so it needs less depth to go on. -/
theorem depth_of_mem (h : t.Walking readable path names around ms) (ht : t.root.WellNamed)
    {e : Entry} (hmem : (name, e) ∈ ms) {depth : Nat}
    (hdepth : Path.maxPathBytes < (Path.along path names).utf8ByteSize + (depth + 1)) :
    Path.maxPathBytes < (Path.along path (names ++ [name])).utf8ByteSize + depth := by
  cases h.wellNamed ht with
  | directory _ hnames _ =>
    have hlonger : (Path.along path names).utf8ByteSize <
        (Path.join (Path.along path names) name).utf8ByteSize :=
      Path.utf8ByteSize_lt_join _ (hnames _ hmem).1
    rw [Path.along_concat]
    omega

/-- **The files below a directory** are those that a walk meets. The induction is on the depth,
which the path of the walk leaves enough of. -/
theorem mem_filesBelow_iff (h : t.Walking readable path names around ms) (ht : t.root.WellNamed)
    {depth : Nat} (hdepth : Path.maxPathBytes < (Path.along path names).utf8ByteSize + depth)
    {rest : List String} :
    rest ∈ t.filesBelow readable depth around (Path.along path names) ms ↔
      rest ≠ [] ∧ t.Meets readable path (names ++ rest) := by
  induction depth generalizing names around ms rest with
  | zero =>
    -- without depth the path would be too long to have been looked up
    obtain ⟨place, inner, hfound, -⟩ := h.found
    exact absurd (size_of_find hfound).2 (Nat.not_le.mpr hdepth)
  | succ depth ih =>
    -- a member that is gone into: its own walk is that of the induction
    have hstep : ∀ {name e goal inner more}, (name, e) ∈ ms →
        t.isFileAt (Path.along path (names ++ [name])) e = false →
        t.entered? around (Path.along path (names ++ [name])) e = some (goal, inner) →
        (more ∈ t.filesBelow readable depth (goal :: around) (Path.along path (names ++ [name]))
          (seen readable goal inner) ↔
            more ≠ [] ∧ t.Meets readable path (names ++ name :: more)) := by
      intro name e goal inner more hmem hfile hinner
      rw [ih (h.enter hmem hfile hinner) (h.depth_of_mem ht hmem hdepth), List.append_assoc,
        List.singleton_append]
    rw [filesBelow, List.mem_flatMap]
    simp only [← Path.along_concat]
    constructor
    · rintro ⟨⟨name, e⟩, hmem, hrest⟩
      cases hfile : t.isFileAt (Path.along path (names ++ [name])) e with
      | true =>
        rw [hfile, if_pos rfl, List.mem_singleton] at hrest
        rw [hrest]
        exact ⟨List.cons_ne_nil _ _, h.meets_iff.mpr ⟨e, hmem, hfile⟩⟩
      | false =>
        rw [hfile, if_neg Bool.false_ne_true] at hrest
        cases hinner : t.entered? around (Path.along path (names ++ [name])) e with
        | none => rw [hinner] at hrest; cases hrest
        | some found =>
          rw [hinner] at hrest
          obtain ⟨more, hmore, rfl⟩ := List.mem_map.mp hrest
          exact ⟨List.cons_ne_nil _ _, ((hstep hmem hfile hinner).mp hmore).2⟩
    · rintro ⟨hne, hmeets⟩
      obtain ⟨name, more, rfl⟩ := List.exists_cons_of_ne_nil hne
      by_cases hmore : more = []
      · rw [hmore] at hmeets ⊢
        obtain ⟨e, hmem, hfile⟩ := h.meets_iff.mp hmeets
        refine ⟨(name, e), hmem, ?_⟩
        rw [hfile, if_pos rfl]
        exact List.mem_singleton_self _
      · have hsplit : t.Meets readable path (names ++ [name] ++ more) := by
          rwa [List.append_assoc]
        have henters : t.Enters readable path (names ++ [name]) := hsplit.enters_of_append hmore
        obtain ⟨e, hmem, hfile, goal, inner, hinner⟩ := h.enters_iff.mp henters
        refine ⟨(name, e), hmem, ?_⟩
        rw [hfile, if_neg Bool.false_ne_true, hinner]
        exact List.mem_map_of_mem ((hstep hmem hfile hinner).mpr ⟨hmore, hmeets⟩)

/-- The walk meets no file twice by the same names. -/
theorem filesBelow_nodup (h : t.Walking readable path names around ms) (ht : t.root.WellNamed)
    (depth : Nat) : (t.filesBelow readable depth around (Path.along path names) ms).Nodup := by
  induction depth generalizing names around ms with
  | zero => exact List.nodup_nil
  | succ depth ih =>
    cases h.wellNamed ht with
    | directory hdistinct _ _ =>
      rw [filesBelow, List.nodup_flatMap]
      simp only [← Path.along_concat]
      refine ⟨?_, (List.pairwise_map.mp hdistinct).imp ?_⟩
      · rintro ⟨name, e⟩ hmem
        cases hfile : t.isFileAt (Path.along path (names ++ [name])) e with
        | true =>
          rw [if_pos rfl]
          exact List.nodup_singleton _
        | false =>
          rw [if_neg Bool.false_ne_true]
          cases hinner : t.entered? around (Path.along path (names ++ [name])) e with
          | none => exact List.nodup_nil
          | some found => exact (ih (h.enter hmem hfile hinner)).map (List.cons_injective)
      · -- what is met under a name begins with it
        rintro ⟨name, e⟩ ⟨other, e'⟩ hne way hway hother
        exact hne (Option.some.inj ((head?_of_mem hway).symm.trans (head?_of_mem hother)))

end Walking

end FileTree

end CallAtlas
