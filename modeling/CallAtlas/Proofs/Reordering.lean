import CallAtlas.Proofs.Walks

/-!
# File trees in another order

In which order a file system tells the names of a directory is not settled. `Reordered`
trees have the same directories, with their members in any order. As long as the names in
a directory are distinct, each name leads to the same in both, so paths lead to the same
places (`Reordered.find`) and walks meet the same files (`Reordered.meets_iff`).
-/

namespace CallAtlas

namespace Entry

/-- The same entry, but for the order of the members in its directories. -/
inductive Reordered : Entry → Entry → Prop
  | file (content : ByteArray) : Reordered (.file content) (.file content)
  | link (target : String) : Reordered (.link target) (.link target)
  | directory {ms ms' : List (String × Entry)} (names : (ms.map Prod.fst).Perm (ms'.map Prod.fst))
    (members : ∀ name e e', (name, e) ∈ ms → (name, e') ∈ ms' → Reordered e e') :
    Reordered (.directory ms) (.directory ms')

variable {e e' c : Entry} {ms ms' : List (String × Entry)} {name : String} {trail : Trail}

/-- Being reordered is mutual. The induction is on how the members are related. -/
theorem Reordered.symm (h : e.Reordered e') : e'.Reordered e := by
  induction h with
  | file content => exact .file content
  | link target => exact .link target
  | directory hnames _ ih =>
    exact .directory hnames.symm fun name c c' hc hc' => ih name c' c hc' hc

/-- Paths go on in the same way at an entry and at the same in another order. -/
theorem Reordered.alike (h : e.Reordered e') : e.Alike e' := by
  cases h with
  | file content => exact .file content content
  | link target => exact .link target
  | directory => exact .directory _ _

/-- A member has one of its name in the other order. -/
theorem exists_mem_of_perm (hnames : (ms.map Prod.fst).Perm (ms'.map Prod.fst))
    (hmem : (name, c) ∈ ms) : ∃ c', (name, c') ∈ ms' := by
  obtain ⟨⟨_, c'⟩, hc', rfl⟩ := List.mem_map.mp (hnames.subset (List.mem_map_of_mem hmem))
  exact ⟨c', hc'⟩

/-- Where names are distinct, a name leads to the one member that has it. -/
theorem member?_eq_some_iff (hdistinct : (ms.map Prod.fst).Nodup) :
    member? ms name = some c ↔ (name, c) ∈ ms := by
  refine ⟨mem_of_member?, fun hmem => ?_⟩
  cases hfound : member? ms name with
  | none =>
    rw [member?_eq_none_iff, List.any_eq_false] at hfound
    exact absurd (beq_self_eq_true name) (hfound _ hmem)
  | some c' =>
    have hsame := List.inj_on_of_nodup_map hdistinct (mem_of_member? hfound) hmem rfl
    rw [(Prod.mk.inj hsame).2]

/-- Names are as good in another order. -/
theorem WellNamed.reordered (he : e.WellNamed) (h : e.Reordered e') : e'.WellNamed := by
  induction h with
  | file content => exact .file content
  | link target => exact .link target
  | directory hnames _ ih =>
    cases he with
    | directory hdistinct hnamed hmembers =>
      refine .directory (hnames.nodup_iff.mp hdistinct) ?_ ?_
      · rintro ⟨name, c'⟩ hmem
        obtain ⟨c, hc⟩ := exists_mem_of_perm hnames.symm hmem
        exact hnamed (name, c) hc
      · rintro ⟨name, c'⟩ hmem
        obtain ⟨c, hc⟩ := exists_mem_of_perm hnames.symm hmem
        exact ih name c c' hc hmem (hmembers _ hc)

/-- Where names are distinct, an entry is one of its own orders. -/
theorem WellNamed.reordered_self (he : e.WellNamed) : e.Reordered e := by
  induction he with
  | file content => exact .file content
  | link target => exact .link target
  | directory hdistinct _ _ ih =>
    refine .directory (List.Perm.refl _) fun name c c' hc hc' => ?_
    have hsame := List.inj_on_of_nodup_map hdistinct hc hc' rfl
    rw [← (Prod.mk.inj hsame).2]
    exact ih _ hc

/-- Members in another order make the same directory. -/
theorem WellNamed.reordered_of_perm (h : (Entry.directory ms).WellNamed) (hperm : ms.Perm ms') :
    (Entry.directory ms).Reordered (.directory ms') := by
  cases h.reordered_self with
  | directory _ hmembers =>
    exact .directory (hperm.map Prod.fst) fun name c c' hc hc' =>
      hmembers name c c' hc (hperm.mem_iff.mpr hc')

/-- A way leads to the same, but for the order of members. -/
theorem Reordered.at? (h : e.Reordered e') (he : e.WellNamed) (hc : e.at? trail = some c) :
    ∃ c', e'.at? trail = some c' ∧ c.Reordered c' := by
  induction trail generalizing e e' with
  | nil =>
    rw [at?_nil] at hc
    cases hc
    exact ⟨e', at?_nil e', h⟩
  | cons name rest ih =>
    rw [at?_cons] at hc
    obtain ⟨inner, hinner, hrest⟩ := Option.bind_eq_some_iff.mp hc
    cases h with
    | file content => cases hinner
    | link target => cases hinner
    | directory hnames hmembers =>
      cases he with
      | directory hdistinct _ hwell =>
        have hmem := mem_of_member? hinner
        obtain ⟨inner', hmem'⟩ := exists_mem_of_perm hnames hmem
        rw [at?_cons, child?_directory,
          (member?_eq_some_iff (hnames.nodup_iff.mp hdistinct)).mpr hmem', Option.bind_some]
        exact ih (hmembers name inner inner' hmem hmem') (hwell _ hmem) hrest

/-- What stands in an entry stands in the same entry reordered. -/
theorem Reordered.keeps (h : e.Reordered e') (he : e.WellNamed) : e.Keeps e' := by
  intro trail c hc
  obtain ⟨c', hc', hsame⟩ := h.at? he hc
  exact ⟨c', hc', hsame.alike⟩

end Entry

namespace FileTree

/-- The same tree, but for the order of the members in directories. -/
structure Reordered (t u : FileTree) : Prop where
  home : u.home = t.home
  root : t.root.Reordered u.root

namespace Reordered

variable {t u : FileTree} {readable : Trail → Bool} {path : String} {names : List String}
  {name : String}

theorem symm (h : t.Reordered u) : u.Reordered t := ⟨h.home.symm, h.root.symm⟩

/-- A tree that a file system can hold is one in another order too. -/
theorem wellNamed (h : t.Reordered u) (ht : t.root.WellNamed) : u.root.WellNamed :=
  ht.reordered h.root

/-! ## Paths -/

/-- A path leads to the same place. -/
theorem find (h : t.Reordered u) (ht : t.root.WellNamed) {place : Trail} {e : Entry}
    (hfound : t.find path = .ok (place, e)) :
    ∃ e', u.find path = .ok (place, e') ∧ e.Reordered e' := by
  obtain ⟨e', hat, hfound'⟩ := find_keeps (h.root.keeps ht) h.home hfound
  obtain ⟨c', hc', hsame⟩ := h.root.at? ht (goal_stands (find_eq_ok_iff.mp hfound))
  rw [hat, Option.some_inj] at hc'
  subst hc'
  exact ⟨e', hfound', hsame⟩

/-- A path leads to the same place in both orders. -/
theorem place?_eq (h : t.Reordered u) (ht : t.root.WellNamed) (path : String) :
    u.place? path = t.place? path := by
  unfold place?
  cases hfound : t.find path with
  | ok found =>
    obtain ⟨e', hfound', -⟩ := h.find ht hfound
    rw [hfound']
  | error fault =>
    cases hfound' : u.find path with
    | error fault' => rfl
    | ok found' =>
      obtain ⟨e, hback, -⟩ := h.symm.find (h.wellNamed ht) hfound'
      rw [hfound] at hback
      cases hback

theorem holds_eq (h : t.Reordered u) (ht : t.root.WellNamed) (path : String) :
    u.holds path = t.holds path := by
  have hplace : ∀ t : FileTree, t.holds path = (t.place? path).isSome := by
    intro t
    unfold holds place?
    cases t.find path <;> rfl
  rw [hplace, hplace, h.place?_eq ht]

theorem isFile (h : t.Reordered u) (ht : t.root.WellNamed) (hfile : t.isFile path = true) :
    u.isFile path = true := by
  obtain ⟨place, content, hfound⟩ := isFile_iff.mp hfile
  obtain ⟨e', hfound', hsame⟩ := h.find ht hfound
  cases hsame with
  | file => exact isFile_iff.mpr ⟨place, content, hfound'⟩

theorem isDirectory (h : t.Reordered u) (ht : t.root.WellNamed)
    (hdirectory : t.isDirectory path = true) : u.isDirectory path = true := by
  obtain ⟨place, ms, hfound⟩ := isDirectory_iff.mp hdirectory
  obtain ⟨e', hfound', hsame⟩ := h.find ht hfound
  cases hsame with
  | @directory _ ms' => exact isDirectory_iff.mpr ⟨place, ms', hfound'⟩

/-! ## Walks -/

/-- A directory to which names lead lists the same members, each of them reordered. -/
theorem lists (h : t.Reordered u) (ht : t.root.WellNamed) {e : Entry}
    (hlists : t.Lists readable path names name e) :
    ∃ e', u.Lists readable path names name e' ∧ e.Reordered e' := by
  obtain ⟨place, ms, hfound, hreadable, hmem⟩ := hlists
  obtain ⟨d, hfound', hsame⟩ := h.find ht hfound
  cases hsame with
  | @directory _ ms' hnames hmembers =>
    obtain ⟨e', hmem'⟩ := Entry.exists_mem_of_perm hnames hmem
    exact ⟨e', ⟨place, ms', hfound', hreadable, hmem'⟩, hmembers name e e' hmem hmem'⟩

/-- A link leads back to a directory on the way to it in both orders or in neither. -/
theorem loops_iff (h : t.Reordered u) (ht : t.root.WellNamed) :
    u.Loops path names name ↔ t.Loops path names name := by
  unfold Loops
  simp only [h.place?_eq ht]

/-- A walk comes to the same directories in another order. The induction is on how it comes
there. -/
theorem enters (h : t.Reordered u) (ht : t.root.WellNamed)
    (henters : t.Enters readable path names) : u.Enters readable path names := by
  induction henters with
  | start here => exact .start (h.isDirectory ht here)
  | directory _ hlists hthere ih =>
    obtain ⟨e', hlists', hsame⟩ := h.lists ht hlists
    cases hsame with
    | directory => exact .directory ih hlists' (h.isDirectory ht hthere)
  | link _ hlists hthere hnew ih =>
    obtain ⟨e', hlists', hsame⟩ := h.lists ht hlists
    cases hsame with
    | link => exact .link ih hlists' (h.isDirectory ht hthere) (mt (h.loops_iff ht).mp hnew)

theorem meets (h : t.Reordered u) (ht : t.root.WellNamed) (hmeets : t.Meets readable path names) :
    u.Meets readable path names := by
  cases hmeets with
  | file henters hlists =>
    obtain ⟨e', hlists', hsame⟩ := h.lists ht hlists
    cases hsame with
    | file => exact .file (h.enters ht henters) hlists'
  | link henters hlists hthere =>
    obtain ⟨e', hlists', hsame⟩ := h.lists ht hlists
    cases hsame with
    | link => exact .link (h.enters ht henters) hlists' (h.isFile ht hthere)

/-- A walk meets the same files. -/
theorem meets_iff (h : t.Reordered u) (ht : t.root.WellNamed) :
    u.Meets readable path names ↔ t.Meets readable path names :=
  ⟨h.symm.meets (h.wellNamed ht), h.meets ht⟩

end Reordered

end FileTree

end CallAtlas
