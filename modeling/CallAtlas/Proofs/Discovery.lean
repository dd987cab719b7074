import CallAtlas.Proofs.Reordering
import Mathlib.Data.List.Sort
import Mathlib.Data.String.Basic

/-!
# The files that paths lead to

`Yields` says what is found of one path: a file itself, and of a directory the files that a
walk below it meets and that the patterns take, in ascending order and each once. It leaves
nothing open (`Yields.unique`), so that what is found does not depend on the order in which
directories tell their members (`Reordered.discover_eq`).

That files which are met by different names have different paths (`along_inj`) is seen from
the characters of a path: no name has what divides names.
-/

namespace CallAtlas

/-! ## Paths along names -/

namespace Path

/-- Whether a name can follow a path as it is: there is nothing yet, or what divides names. -/
def isOpen (path : String) : Bool := path.isEmpty || path.toList.getLast? == some '/'

/-- Some names, each behind what divides names. -/
def divided (names : List String) : List Char := names.flatMap fun name => '/' :: name.toList

/-- A name stands behind a path, with what divides names before it unless the path ends with
that. -/
theorem join_toList (path name : String) : (join path name).toList =
    path.toList ++ if isOpen path then name.toList else '/' :: name.toList := by
  unfold join isOpen
  split
  · rw [String.toList_append]
  · rw [String.toList_append, String.toList_append, List.append_assoc]
    rfl

/-- A path that ends with a name is not open. -/
theorem isOpen_join (path : String) {name : String} (hname : IsName name) :
    isOpen (join path name) = false := by
  obtain ⟨hne, hslash⟩ := hname
  have hchars : name.toList ≠ [] := mt String.toList_eq_nil_iff.mp hne
  have hlast : (join path name).toList.getLast? = some (name.toList.getLast hchars) := by
    rw [join_toList, List.getLast?_append]
    split
    · rw [List.getLast?_eq_some_getLast hchars, Option.some_or]
    · rw [List.getLast?_cons, List.getLast?_eq_some_getLast hchars, Option.getD_some,
        Option.some_or]
  have hdivides : name.toList.getLast hchars ≠ '/' := fun h => hslash (h ▸ List.getLast_mem hchars)
  rw [isOpen, hlast, Bool.or_eq_false_iff]
  refine ⟨Bool.eq_false_iff.mpr fun hempty => ?_, beq_false_of_ne (mt Option.some.inj hdivides)⟩
  rw [String.isEmpty_iff.mp hempty] at hlast
  cases hlast

/-- A path has at least one name, which can be empty. -/
theorem names_ne_nil (path : String) : names path ≠ [] := by
  rw [names]
  exact mt List.map_eq_nil_iff.mp (List.splitOn_ne_nil '/' path.toList)

/-- Names that lead on from a path that ends with a name. -/
theorem along_toList {path : String} (hclosed : isOpen path = false) {names : List String}
    (hnames : ∀ name ∈ names, IsName name) :
    (along path names).toList = path.toList ++ divided names := by
  induction names generalizing path with
  | nil => exact (List.append_nil _).symm
  | cons name rest ih =>
    obtain ⟨hname, hrest⟩ := List.forall_mem_cons.mp hnames
    rw [along, List.foldl_cons, ← along, ih (isOpen_join path hname) hrest, join_toList, hclosed,
      List.append_assoc]
    rfl

/-- Behind a path stand the names, without what divides the first one from it if the path ends
with that. -/
theorem along_cons_toList (path : String) {name : String} {rest : List String}
    (hname : IsName name) (hrest : ∀ name ∈ rest, IsName name) :
    (along path (name :: rest)).toList = path.toList ++
      if isOpen path then (divided (name :: rest)).tail else divided (name :: rest) := by
  rw [along, List.foldl_cons, ← along, along_toList (isOpen_join path hname) hrest, join_toList,
    List.append_assoc]
  cases isOpen path <;> rfl

/-- A name ends where the next one is divided from it. -/
theorem takeWhile_divided {name : String} (hname : '/' ∉ name.toList) (names : List String) :
    (name.toList ++ divided names).takeWhile (· != '/') = name.toList := by
  have hall : ∀ c ∈ name.toList, (c != '/') = true := fun c hc =>
    bne_iff_ne.mpr fun h => hname (h ▸ hc)
  rw [List.takeWhile_append_of_pos hall]
  cases names with
  | nil => exact List.append_nil _
  | cons other rest => exact List.append_nil _

/-- Names are told from the characters that they make when they are divided. -/
theorem divided_inj {names others : List String} (hnames : ∀ name ∈ names, IsName name)
    (hothers : ∀ name ∈ others, IsName name) (h : divided names = divided others) :
    names = others := by
  induction names generalizing others with
  | nil =>
    cases others with
    | nil => rfl
    | cons other rest' => cases h
  | cons name rest ih =>
    cases others with
    | nil => cases h
    | cons other rest' =>
      obtain ⟨hname, hrest⟩ := List.forall_mem_cons.mp hnames
      obtain ⟨hother, hrest'⟩ := List.forall_mem_cons.mp hothers
      have hbehind : name.toList ++ divided rest = other.toList ++ divided rest' :=
        (List.cons.inj h).2
      have hfirst : name.toList = other.toList := by
        rw [← takeWhile_divided hname.2 rest, hbehind, takeWhile_divided hother.2]
      rw [hfirst, List.append_cancel_left_eq] at hbehind
      rw [String.toList_inj.mp hfirst, ih hrest hrest' hbehind]

/-- Different names lead to different paths. -/
theorem along_inj {path : String} {names others : List String}
    (hnames : ∀ name ∈ names, IsName name) (hothers : ∀ name ∈ others, IsName name)
    (hne : names ≠ []) (hne' : others ≠ []) (h : along path names = along path others) :
    names = others := by
  obtain ⟨name, rest, rfl⟩ := List.exists_cons_of_ne_nil hne
  obtain ⟨other, rest', rfl⟩ := List.exists_cons_of_ne_nil hne'
  have hchars := congrArg String.toList h
  obtain ⟨hname, hrest⟩ := List.forall_mem_cons.mp hnames
  obtain ⟨hother, hrest'⟩ := List.forall_mem_cons.mp hothers
  rw [along_cons_toList path hname hrest, along_cons_toList path hother hrest',
    List.append_cancel_left_eq] at hchars
  refine divided_inj hnames hothers ?_
  cases hopen : isOpen path with
  | true =>
    rw [hopen, if_pos rfl, if_pos rfl] at hchars
    exact congrArg ('/' :: ·) hchars
  | false =>
    rw [hopen, if_neg Bool.false_ne_true, if_neg Bool.false_ne_true] at hchars
    exact hchars

end Path

namespace FileTree

variable {t : FileTree} {readable : Trail → Bool} {s : Selection} {path : String}

/-! ## What a walk below a directory yields -/

/-- One way comes before another one or is the same just if it is not greater, name by name. -/
theorem precedes_iff {a b : Trail} : precedes a b = true ↔ ¬ b < a := by
  induction a generalizing b with
  | nil => exact ⟨fun _ => List.not_lt_nil b, fun _ => rfl⟩
  | cons x xs ih =>
    cases b with
    | nil => exact ⟨nofun, fun h => absurd (List.nil_lt_cons x xs) h⟩
    | cons y ys =>
      rw [precedes, List.cons_lt_cons_iff, Bool.or_eq_true, decide_eq_true_eq, Bool.and_eq_true,
        beq_iff_eq, ih]
      rcases lt_trichotomy x y with hlt | rfl | hgt
      · simp [hlt, hlt.asymm, hlt.ne']
      · simp
      · simp [hgt, hgt.asymm, hgt.ne']

/-- The order of ways is transitive, as sorting asks for. -/
theorem precedes_trans (a b c : Trail) (hab : precedes a b = true) (hbc : precedes b c = true) :
    precedes a c = true := by
  rw [precedes_iff, not_lt] at hab hbc ⊢
  exact hab.trans hbc

theorem precedes_total (a b : Trail) : (precedes a b || precedes b a) = true := by
  rw [Bool.or_eq_true, precedes_iff, precedes_iff, not_lt, not_lt]
  exact le_total a b

/-- Ways in ascending order that are the same are in the same order. -/
theorem ways_unique {ways others : List Trail} (hways : ways.Pairwise (· < ·))
    (hothers : others.Pairwise (· < ·)) (h : ∀ way, way ∈ ways ↔ way ∈ others) :
    ways = others := by
  have hnodup : ∀ {l : List Trail}, l.Pairwise (· < ·) → l.Nodup := fun hl =>
    hl.imp fun hlt => hlt.ne
  refine List.Perm.eq_of_pairwise (fun a b _ _ hab hba => absurd hba hab.asymm) hways hothers ?_
  exact (List.perm_ext_iff_of_nodup (hnodup hways) (hnodup hothers)).mpr h

/-- What is found of a path: a file itself, and of a directory the files that a walk meets and
that are taken, in the order of their names and each once. -/
inductive Yields (t : FileTree) (readable : Trail → Bool) (s : Selection) (path : String) :
    List String → Prop
  | file (here : t.isFile path = true) : Yields t readable s path [path]
  | directory {ways : List Trail} (here : t.isDirectory path = true)
    (ascending : ways.Pairwise (· < ·)) (once : (ways.map (Path.along path)).Nodup)
    (mem_ways : ∀ names, names ∈ ways ↔
      t.Meets readable path names ∧ s.accepts ("/".intercalate names) = true) :
    Yields t readable s path (ways.map (Path.along path))

/-- What a path yields is determined: there is one ascending list of the same ways. -/
theorem Yields.unique {part part' : List String} (h : t.Yields readable s path part)
    (h' : t.Yields readable s path part') : part = part' := by
  have hapart : t.isFile path = true → ¬ t.isDirectory path = true := by
    intro hfile hdirectory
    obtain ⟨place, content, hfound⟩ := isFile_iff.mp hfile
    rw [isDirectory, hfound] at hdirectory
    cases hdirectory
  cases h with
  | file hfile =>
    cases h' with
    | file => rfl
    | directory hdirectory => exact absurd hdirectory (hapart hfile)
  | directory hdirectory hways _ hmem =>
    cases h' with
    | file hfile => exact absurd hdirectory (hapart hfile)
    | directory _ hways' _ hmem' =>
      rw [ways_unique hways hways' fun way => (hmem way).trans (hmem' way).symm]

/-- A path that yields something leads somewhere. -/
theorem Yields.holds {part : List String} (h : t.Yields readable s path part) :
    t.holds path = true := by
  cases h with
  | file here =>
    obtain ⟨place, content, hfound⟩ := isFile_iff.mp here
    rw [FileTree.holds, hfound]
  | directory here _ _ _ =>
    obtain ⟨place, ms, hfound⟩ := isDirectory_iff.mp here
    rw [FileTree.holds, hfound]

/-- Of a directory is found what it yields. -/
theorem filesOf_yields (ht : t.root.WellNamed) {place : Trail} {ms : List (String × Entry)}
    (h : t.find path = .ok (place, .directory ms)) :
    t.Yields readable s path (t.filesOf readable s path place ms) := by
  have hwalk : t.Walking readable path [] [place] (seen readable place ms) := .start h
  let all := t.filesBelow readable Path.maxPathBytes [place] path (seen readable place ms)
  let taken := all.filter fun names => s.accepts ("/".intercalate names)
  have hmem : ∀ names, names ∈ taken.mergeSort precedes ↔
      t.Meets readable path names ∧ s.accepts ("/".intercalate names) = true := by
    intro names
    have hall : names ∈ all ↔ names ≠ [] ∧ t.Meets readable path names :=
      hwalk.mem_filesBelow_iff ht (Nat.lt_add_of_pos_left (size_of_find h).1)
    rw [List.mem_mergeSort, List.mem_filter, hall, and_iff_right_of_imp Meets.ne_nil]
  have hnodup : (taken.mergeSort precedes).Nodup :=
    (List.mergeSort_perm ..).nodup_iff.mpr
      ((hwalk.filesBelow_nodup ht Path.maxPathBytes).filter _)
  have hsorted : (taken.mergeSort precedes).Pairwise fun a b => precedes a b = true :=
    List.pairwise_mergeSort precedes_trans precedes_total taken
  have hascending : (taken.mergeSort precedes).Pairwise (· < ·) :=
    (hsorted.and hnodup).imp fun ⟨hab, hne⟩ => lt_of_le_of_ne (not_lt.mp (precedes_iff.mp hab)) hne
  refine .directory (isDirectory_iff.mpr ⟨place, ms, h⟩) hascending (hnodup.map_on ?_) hmem
  intro names hnames others hothers heq
  have hmeets := ((hmem names).mp hnames).1
  have hmeets' := ((hmem others).mp hothers).1
  exact Path.along_inj (hmeets.isName ht) (hmeets'.isName ht) hmeets.ne_nil hmeets'.ne_nil heq

/-! ## What paths lead to -/

/-- No link stands on a way to a directory. -/
theorem not_link_of_prefix {root : Entry} {front trail : Trail} {ms : List (String × Entry)}
    (h : root.at? trail = some (.directory ms)) (hfront : front <+: trail) (target : String) :
    root.at? front ≠ some (.link target) := by
  obtain ⟨rest, rfl⟩ := hfront
  intro hlink
  rw [Entry.at?_append, hlink, Option.bind_some] at h
  cases rest with
  | nil => cases h
  | cons name rest => cases h

/-- Following a path to its end never stops at a link. -/
theorem follow_ne_link {root : Entry} {links : Nat} {trail way : Trail} {names : List String}
    {e : Entry} (hstart : names = [] → ∀ target, root.at? trail ≠ some (.link target))
    (h : follow root true links trail names = .ok (.found way e)) (target : String) :
    e ≠ .link target := by
  fun_induction follow root true links trail names with
  | case1 links trail e he =>
    cases h
    rintro rfl
    exact hstart rfl target he
  | case3 links trail name rest ms hd hn ih =>
    exact ih (fun _ => not_link_of_prefix hd (List.prefix_refl _)) h
  | case4 links trail rest ms hd hn ih =>
    exact ih (fun _ => not_link_of_prefix hd (List.dropLast_prefix _)) h
  | case8 links trail name rest ms hd hn hup hlong target hm hl =>
    rw [Bool.not_true, Bool.and_false] at hl
    cases hl
  -- links are resolved from the directory that has them, which is no link
  | case10 trail name rest ms hd hn hup hlong target hm hl links start ih =>
    refine ih (fun _ => not_link_of_prefix hd ?_) h
    show (if Path.isAbsolute target then [] else trail) <+: trail
    split
    · exact List.nil_prefix
    · exact List.prefix_refl _
  | case11 links trail name rest ms hd hn hup hlong c hc hm ih =>
    refine ih (fun _ other hother => ?_) h
    rw [Entry.at?_member hd, hm] at hother
    exact hc other (Option.some.inj hother)
  | _ => cases h

/-- What a path finds is no link. -/
theorem find_ne_link {place : Trail} {e : Entry} (h : t.find path = .ok (place, e))
    (target : String) : e ≠ .link target := by
  rw [find_eq_ok_iff, FileTree.goal] at h
  split at h
  · cases h
  · exact follow_ne_link (fun hnone => absurd hnone (Path.names_ne_nil path)) h target

/-- A path that leads somewhere leads to a file or to a directory. -/
theorem find_of_holds (h : t.holds path = true) :
    (∃ place content, t.find path = .ok (place, .file content)) ∨
      ∃ place ms, t.find path = .ok (place, .directory ms) := by
  unfold holds at h
  split at h
  · next found hfound =>
    obtain ⟨place, e⟩ := found
    cases e with
    | file content => exact .inl ⟨place, content, hfound⟩
    | directory ms => exact .inr ⟨place, ms, hfound⟩
    | link target => exact absurd rfl (find_ne_link hfound target)
  · cases h

/-- A path that leads nowhere ends the search. -/
theorem discover_of_missing (hpath : t.holds path = false) (rest : List String) :
    t.discover readable s (path :: rest) = .error path := by
  unfold holds at hpath
  split at hpath
  · cases hpath
  · next fault hfault => rw [discover, hfault]

/-- Of a path that leads somewhere is found what it yields, before what the other paths lead
to. -/
theorem discover_of_holds (ht : t.root.WellNamed) (hpath : t.holds path = true)
    (rest : List String) : ∃ part, t.Yields readable s path part ∧
      t.discover readable s (path :: rest) = (t.discover readable s rest).map (part ++ ·) := by
  rcases find_of_holds hpath with ⟨place, content, hfound⟩ | ⟨place, ms, hfound⟩
  · refine ⟨[path], .file (isFile_iff.mpr ⟨place, content, hfound⟩), ?_⟩
    rw [discover, hfound]
    rfl
  · refine ⟨_, filesOf_yields ht hfound, ?_⟩
    rw [discover, hfound]
    rfl

/-- The search fails just at the first path that leads nowhere. -/
theorem discover_eq_error_iff (ht : t.root.WellNamed) {paths : List String} {missing : String} :
    t.discover readable s paths = .error missing ↔
      paths.find? (fun p => !t.holds p) = some missing := by
  induction paths with
  | nil => exact ⟨nofun, nofun⟩
  | cons path rest ih =>
    cases hpath : t.holds path with
    | false =>
      rw [discover_of_missing hpath, List.find?_cons_of_pos (by rw [hpath]; rfl),
        Except.error.injEq, Option.some_inj]
    | true =>
      obtain ⟨part, -, hdiscover⟩ := discover_of_holds (s := s) ht hpath rest
      rw [hdiscover, List.find?_cons_of_neg (by rw [hpath]; exact Bool.false_ne_true), ← ih]
      cases t.discover readable s rest <;> simp [Except.map]

/-- If it does not fail, it finds what each path yields, in the order of the paths. -/
theorem discover_eq_ok_iff (ht : t.root.WellNamed) {paths files : List String} :
    t.discover readable s paths = .ok files ↔
      ∃ parts, List.Forall₂ (t.Yields readable s) paths parts ∧ files = parts.flatten := by
  induction paths generalizing files with
  | nil =>
    rw [discover, Except.ok.injEq]
    constructor
    · rintro rfl
      exact ⟨[], .nil, rfl⟩
    · rintro ⟨parts, hparts, rfl⟩
      cases hparts
      rfl
  | cons path rest ih =>
    constructor
    · intro hfiles
      cases hpath : t.holds path with
      | false =>
        rw [discover_of_missing hpath] at hfiles
        cases hfiles
      | true =>
        obtain ⟨part, hpart, hdiscover⟩ := discover_of_holds (s := s) ht hpath rest
        rw [hdiscover] at hfiles
        cases hrest : t.discover readable s rest with
        | error missing =>
          rw [hrest] at hfiles
          cases hfiles
        | ok later =>
          rw [hrest] at hfiles
          obtain ⟨parts, hparts, rfl⟩ := ih.mp hrest
          exact ⟨part :: parts, .cons hpart hparts, (Except.ok.inj hfiles).symm⟩
    · -- a path yields one list only, so it is the one that is found
      rintro ⟨parts, hparts, rfl⟩
      cases hparts with
      | cons hpart hrest =>
        obtain ⟨part, hpart', hdiscover⟩ := discover_of_holds (s := s) ht hpart.holds rest
        rw [hdiscover, ih.mpr ⟨_, hrest, rfl⟩, hpart.unique hpart']
        rfl

/-- A path yields the same in another order of the members. -/
theorem Reordered.yields {u : FileTree} (h : t.Reordered u) (ht : t.root.WellNamed)
    {part : List String} (hyields : t.Yields readable s path part) :
    u.Yields readable s path part := by
  cases hyields with
  | file here => exact .file (h.isFile ht here)
  | directory here ascending once mem_ways =>
    refine .directory (h.isDirectory ht here) ascending once fun names => ?_
    rw [h.meets_iff ht]
    exact mem_ways names

/-- In which order directories tell their members has no part in what is found. -/
theorem Reordered.discover_eq {u : FileTree} (h : t.Reordered u) (ht : t.root.WellNamed)
    (paths : List String) : u.discover readable s paths = t.discover readable s paths := by
  have hu : u.root.WellNamed := h.wellNamed ht
  cases hfound : t.discover readable s paths with
  | error missing =>
    rw [discover_eq_error_iff ht] at hfound
    rw [discover_eq_error_iff hu, ← hfound]
    simp only [h.holds_eq ht]
  | ok files =>
    obtain ⟨parts, hparts, rfl⟩ := (discover_eq_ok_iff ht).mp hfound
    exact (discover_eq_ok_iff hu).mpr ⟨parts, hparts.imp fun _ _ => h.yields ht, rfl⟩

/-- **What is found.** The search stops at the first path that leads nowhere, if there is one.
If not, it finds what each path yields, in the order of the paths. The order in which
directories tell their members has no part in it. -/
theorem discover_spec (ht : t.root.WellNamed) (readable : Trail → Bool) (s : Selection)
    (paths : List String) :
    (∀ missing, t.discover readable s paths = .error missing ↔
      paths.find? (fun p => !t.holds p) = some missing) ∧
    ((∀ p ∈ paths, t.holds p = true) → ∃ parts, List.Forall₂ (t.Yields readable s) paths parts ∧
      t.discover readable s paths = .ok parts.flatten) ∧
    ∀ u, t.Reordered u → u.discover readable s paths = t.discover readable s paths := by
  refine ⟨fun missing => discover_eq_error_iff ht, fun hall => ?_, fun u h =>
    h.discover_eq ht paths⟩
  cases hfound : t.discover readable s paths with
  | error missing =>
    have hfirst := (discover_eq_error_iff ht).mp hfound
    have hmissing := List.find?_some hfirst
    rw [hall missing (List.mem_of_find?_eq_some hfirst)] at hmissing
    cases hmissing
  | ok files =>
    obtain ⟨parts, hparts, rfl⟩ := (discover_eq_ok_iff ht).mp hfound
    exact ⟨parts, hparts, rfl⟩

/-- A directory with a file that is taken and one that is not, a link back to it, a link to
nothing, and a directory whose names cannot be read. -/
def crowdedDirectory : List (String × Entry) :=
  [("b.ts", .file .empty), ("notes.md", .file .empty), ("again", .link "."),
    ("gone", .link "nowhere"), ("shut", .directory [("c.ts", .file .empty)])]

/-- A tree with that directory, whose members come in some order. -/
def crowdedTree (members : List (String × Entry)) : FileTree :=
  ⟨.directory [("src", .directory members), ("a.ts", .file .empty)], []⟩

/-- A file system can hold this tree. -/
theorem wellNamed_crowdedTree : (crowdedTree crowdedDirectory).root.WellNamed := by
  have hshut : (Entry.directory [("c.ts", .file .empty)]).WellNamed := by
    refine .directory (by decide) (by simp [Path.IsName]) ?_
    rintro m hm
    rw [List.mem_singleton.mp hm]
    exact .file .empty
  have hsrc : (Entry.directory crowdedDirectory).WellNamed := by
    refine .directory (by decide) (by simp [crowdedDirectory, Path.IsName]) ?_
    simp only [crowdedDirectory, List.forall_mem_cons]
    exact ⟨.file _, .file _, .link _, .link _, hshut, fun m hm => nomatch hm⟩
  refine .directory (by decide) (by simp [Path.IsName]) ?_
  simp only [List.forall_mem_cons]
  exact ⟨hsrc, .file _, fun m hm => nomatch hm⟩

theorem reordered_crowdedTree :
    (crowdedTree crowdedDirectory).Reordered (crowdedTree crowdedDirectory.reverse) := by
  refine ⟨rfl, .directory (List.Perm.refl _) fun name e e' he he' => ?_⟩
  cases wellNamed_crowdedTree with
  | directory hdistinct _ hmembers =>
    simp only [List.mem_cons, Prod.mk.injEq, List.not_mem_nil, or_false] at he he'
    rcases he with ⟨rfl, rfl⟩ | ⟨rfl, rfl⟩ <;> rcases he' with ⟨hname, rfl⟩ | ⟨hname, rfl⟩
    · exact (hmembers _ (List.mem_cons_self ..)).reordered_of_perm (List.reverse_perm _).symm
    · exact absurd hname (by decide)
    · exact absurd hname (by decide)
    · exact .file _

theorem holds_crowdedTree (members : List (String × Entry)) :
    ∀ name ∈ ["src", "a.ts", "b.ts"], (crowdedTree members).holds name = (name != "b.ts") := by
  have hd : (crowdedTree members).root.at? (crowdedTree members).home =
      some (crowdedTree members).root := Entry.at?_nil _
  have hplain : ∀ name ∈ ["src", "a.ts", "b.ts"], Plain name := by
    simp only [List.forall_mem_cons]
    refine ⟨?_, ?_, ?_, nofun⟩ <;> exact
      ⟨⟨by decide, by decide, by decide⟩, ⟨by decide, by decide⟩, by decide⟩
  intro name hmem
  rw [holds, find_name (hplain name hmem) hd fun target hlink => ?_]
  · simp only [List.mem_cons, List.not_mem_nil, or_false] at hmem
    rcases hmem with rfl | rfl | rfl <;> rfl
  · have hlisted := Entry.mem_of_member? hlink
    simp at hlisted

/-- What is found in the directory and of the file beside it, in the order of the paths and
not of the tree. -/
theorem discover_spec_crowdedTree :
    let t := crowdedTree crowdedDirectory
    let readable : Trail → Bool := (· != ["src", "shut"])
    let s : Selection := ⟨[⟨[.anyText, .char '.', .char 't', .char 's']⟩], []⟩
    t.root.WellNamed ∧ (∃ parts, List.Forall₂ (t.Yields readable s) ["src", "a.ts"] parts ∧
      t.discover readable s ["src", "a.ts"] = .ok parts.flatten) ∧
    t.discover readable s ["src", "b.ts", "a.ts"] = .error "b.ts" ∧
    (crowdedTree crowdedDirectory.reverse).discover readable s ["src", "a.ts"] =
      t.discover readable s ["src", "a.ts"] := by
  intro t readable s
  have hsrc : t.holds "src" = true := holds_crowdedTree _ _ (by decide)
  have hfile : t.holds "a.ts" = true := holds_crowdedTree _ _ (by decide)
  have hmissing : t.holds "b.ts" = false := holds_crowdedTree _ _ (by decide)
  have hspec := fun paths => discover_spec wellNamed_crowdedTree readable s paths
  refine ⟨wellNamed_crowdedTree, (hspec _).2.1 ?_, ((hspec _).1 _).mpr ?_,
    (hspec _).2.2 _ reordered_crowdedTree⟩
  · exact List.forall_mem_cons.mpr ⟨hsrc, List.forall_mem_singleton.mpr hfile⟩
  · rw [List.find?_cons_of_neg (by rw [hsrc]; decide),
      List.find?_cons_of_pos (by rw [hmissing]; rfl)]

end FileTree

end CallAtlas
