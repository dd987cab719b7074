import CallAtlas.Program.Run
import CallAtlas.Proofs.Following

/-!
# What saving a text does to a tree

A text is saved by making the directories above its path, the outermost first, and then
writing the file. Each directory is made at a free name, so a tree only grows on the way
(`Extends`), and a directory that has been made is still where its path leads when the
next is made. If saving stops, nothing else has happened (`save_fault`); if not, the
text is the content of the file to which the path leads (`find_of_save`).
-/

namespace CallAtlas

/-- A path as it is followed to make a directory: without the slashes at its end. -/
def Path.trimmed (path : String) : String :=
  let closed := String.ofList (path.toList.reverse.dropWhile (· == '/')).reverse
  if closed.isEmpty then path else closed

/-- A path, the directory above it, the one above that, and so on. -/
inductive Path.Upward (path : String) : String → Prop
  | here : Upward path path
  | up {p : String} (h : Upward path p) : Upward path (Path.parent p)

/-- What is above the directory above a path is above the path. -/
theorem Path.Upward.of_parent {path p : String} (h : Upward (Path.parent path) p) :
    Upward path p := by
  induction h with
  | here => exact .up .here
  | up _ ih => exact .up ih

namespace FileTree

/-- One tree has all that another has, as it was, and besides only directories, to which
some paths lead. -/
structure Extends (paths : String → Prop) (t t' : FileTree) : Prop where
  home : t'.home = t.home
  kept : ∀ trail s, t.root.look trail = some s → t'.root.look trail = some s
  added : ∀ trail s, t'.root.look trail = some s → t.root.look trail = some s ∨
    s = .directory [] ∧ ∃ path e, paths path ∧ t'.find (Path.trimmed path) = .ok (trail, e)

namespace Extends

variable {paths paths' : String → Prop} {t t' t'' : FileTree}

theorem refl (paths : String → Prop) (t : FileTree) : Extends paths t t :=
  ⟨rfl, fun _ _ h => h, fun _ _ h => .inl h⟩

/-- A tree that grows along some paths grows along more. -/
theorem mono (hp : ∀ path, paths path → paths' path) (h : Extends paths t t') :
    Extends paths' t t' := by
  refine ⟨h.home, h.kept, fun trail s hs => ?_⟩
  rcases h.added trail s hs with ht | ⟨hd, path, e, hpath, hf⟩
  · exact .inl ht
  · exact .inr ⟨hd, path, e, hp path hpath, hf⟩

/-- What stood in a tree stands in it when it has grown. -/
theorem keeps (h : Extends paths t t') : t.root.Keeps t'.root := .of_kept h.kept

/-- A tree that grows twice has grown: a path that led to a new directory still leads there. -/
theorem trans (h : Extends paths t t') (h' : Extends paths t' t'') : Extends paths t t'' := by
  refine ⟨h'.home.trans h.home, fun trail s hs => h'.kept trail s (h.kept trail s hs), ?_⟩
  intro trail s hs
  rcases h'.added trail s hs with hs | hnew
  · rcases h.added trail s hs with hs | ⟨hd, path, e, hpath, hf⟩
    · exact .inl hs
    · obtain ⟨e', -, hf'⟩ := find_keeps h'.keeps h'.home hf
      exact .inr ⟨hd, path, e', hpath, hf'⟩
  · exact .inr hnew

end Extends

/-! ## Something new at a free name -/

variable {t t' : FileTree} {path : String}

section

variable {last : Bool} {trail : Trail} {name : String} {new : Entry}

/-- Something that is put at a free name is seen there, and all else as before. -/
theorem look_put_free (h : t.goal path last = .ok (.free trail name)) (hnew : new.IsLeaf)
    (way : Trail) : (t.put (trail ++ [name]) new).root.look way =
      if way = trail ++ [name] then some new else t.root.look way := by
  obtain ⟨ms, hd, hn⟩ := goal_stands h
  exact Entry.look_put (.append hd (.free hn)) hnew way

theorem kept_put_free (h : t.goal path last = .ok (.free trail name)) (hnew : new.IsLeaf) :
    ∀ way s, t.root.look way = some s →
      (t.put (trail ++ [name]) new).root.look way = some s := by
  intro way s hs
  rw [look_put_free h hnew, if_neg, hs]
  rintro rfl
  obtain ⟨ms, hd, hn⟩ := goal_stands h
  rw [Entry.look, Entry.at?_member hd, hn] at hs
  cases hs

/-- What is put at a free name stands where the path leads. -/
theorem find_put_free (h : t.goal path last = .ok (.free trail name)) (hnew : new.IsLeaf) :
    ∃ e, e.shell = new ∧ (t.put (trail ++ [name]) new).find path = .ok (trail ++ [name], e) := by
  have hlook := look_put_free h hnew (trail ++ [name])
  rw [if_pos rfl] at hlook
  obtain ⟨e, he, hshell⟩ := Option.map_eq_some_iff.mp hlook
  refine ⟨e, hshell, find_free (.of_kept (kept_put_free h hnew)) rfl h he ?_⟩
  rintro target rfl
  subst hshell
  cases hnew

end

/-! ## Directories -/

/-- A directory is made where its path, without slashes at its end, leads to a free name. -/
theorem makeDirectory_eq (t : FileTree) (path : String) :
    t.makeDirectory path = match t.goal (Path.trimmed path) false with
      | .ok (.found _ _) => .error .exists
      | .ok (.free trail name) => .ok (t.put (trail ++ [name]) (.directory []))
      | .error f => .error f := rfl

/-- A directory that is made stands where its path leads. -/
theorem extends_makeDirectory (h : t.makeDirectory path = .ok t') :
    Extends (· = path) t t' := by
  rw [makeDirectory_eq] at h
  split at h
  case h_1 => cases h
  case h_3 => cases h
  case h_2 trail name hgoal =>
    cases h
    refine ⟨rfl, kept_put_free hgoal .directory, fun way s hs => ?_⟩
    rw [look_put_free hgoal .directory] at hs
    split at hs
    case isFalse => exact .inl hs
    case isTrue hway =>
      cases hs
      subst hway
      obtain ⟨e, -, hf⟩ := find_put_free hgoal .directory
      exact .inr ⟨rfl, path, e, rfl, hf⟩

/-- Making a directory and those above it makes a tree grow along these paths. The induction is on
how many of them are still tried; each is made after the one above it. -/
theorem extends_makeDirectories (fuel : Nat) (t : FileTree) (path : String) :
    Extends (Path.Upward path) t (t.makeDirectories fuel path).1 := by
  induction fuel generalizing t path with
  | zero => exact .refl _ t
  | succ fuel ih =>
    have hmade : ∀ {t t' : FileTree}, t.makeDirectory path = .ok t' →
        Extends (Path.Upward path) t t' := by
      intro t t' h
      refine (extends_makeDirectory h).mono fun p hp => ?_
      rw [hp]
      exact .here
    -- What is made above the path, before the second try to make the path itself.
    have habove := (ih t (Path.parent path)).mono fun p => Path.Upward.of_parent
    rw [makeDirectories]
    split
    · exact .refl _ t
    · split
      case h_1 h => exact hmade h
      case h_3 => exact .refl _ t
      case h_2 =>
        split
        case h_1 h =>
          rw [h] at habove
          exact habove
        case h_2 h =>
          rw [h] at habove
          split
          case h_1 h' => exact habove.trans (hmade h')
          case h_2 => exact habove

/-! ## Files -/

/-- A file that is written has the content that was to be written. -/
theorem find_of_write {content : ByteArray} (h : t.write path content = .ok t') :
    ∃ trail, t'.find path = .ok (trail, .file content) := by
  unfold write at h
  split at h
  case h_1 trail old hgoal =>
    cases h
    have hat : t.root.at? trail = some (.file old) := goal_stands hgoal
    have hset : t.root.Settable trail := by
      rw [← List.append_nil trail]
      exact .append hat (.file old)
    have hlook := Entry.look_put hset (.file content)
    -- `Extends` does not hold here: the file loses its content, but paths do not see it.
    have hk : t.root.Keeps (t.put trail (.file content)).root := by
      refine .of_look fun way s hs => ?_
      change ∃ s', (t.root.put (.file content) trail).look way = some s' ∧ _
      rw [hlook]
      split
      case isTrue hway =>
        rw [hway, Entry.look, hat] at hs
        cases hs
        exact ⟨_, rfl, .file old content⟩
      case isFalse =>
        obtain ⟨e, -, rfl⟩ := Option.map_eq_some_iff.mp hs
        exact ⟨_, hs, .shell_self e⟩
    obtain ⟨e, he, hf⟩ := find_keeps hk rfl (find_eq_ok_iff.mpr hgoal)
    have hshell : e.shell = .file content := by
      rw [← Option.some.injEq, ← Option.map_some, ← he]
      exact (hlook trail).trans (if_pos rfl)
    exact ⟨trail, Entry.shell_eq_file hshell ▸ hf⟩
  case h_3 trail name hgoal =>
    cases h
    obtain ⟨e, hshell, hf⟩ := find_put_free hgoal (.file content)
    exact ⟨trail ++ [name], Entry.shell_eq_file hshell ▸ hf⟩
  case h_2 => cases h
  case h_4 =>
    split at h
    · split at h <;> cases h
    · cases h

/-- If saving stops, nothing has happened but that some of the directories above the
file have been made. -/
theorem save_fault {text : String} {fault : PathFault}
    (h : t.save path text = (t', some fault)) : Extends (Path.Upward (Path.parent path)) t t' := by
  have habove := extends_makeDirectories ((Path.names path).length + 1) t (Path.parent path)
  unfold save at h
  split at h
  case h_1 t₁ f hm =>
    rw [hm] at habove
    cases h
    exact habove
  case h_2 t₁ hm =>
    rw [hm] at habove
    split at h <;> cases h
    exact habove

/-- A text that is saved stands where its path leads. -/
theorem find_of_save {text : String} (h : t.save path text = (t', none)) :
    ∃ trail, t'.find path = .ok (trail, .file text.toUTF8) := by
  unfold save at h
  split at h
  case h_1 => cases h
  case h_2 t₁ hm =>
    split at h <;> cases h
    case h_1 hw => exact find_of_write hw

/-- A text that is saved under a free name stands there. -/
theorem save_name {name : String} {ms : List (String × Entry)} (hname : Plain name)
    (hd : t.root.at? t.home = some (.directory ms)) (hfree : Entry.member? ms name = none)
    (text : String) :
    t.save name text = (t.put (t.home ++ [name]) (.file text.toUTF8), none) := by
  have hgoal : t.goal name true = .ok (.free t.home name) := by
    rw [goal_name hname hd fun target hlink => ?_, hfree]
    rw [hfree] at hlink
    cases hlink
  have hmade : t.makeDirectories ((Path.names name).length + 1) "" = (t, none) := by
    rw [makeDirectories]
    rfl
  rw [save, Path.parent_of_isName hname.isName, hmade]
  dsimp only
  rw [write, hgoal]

/-! ## Trees with empty files -/

/-- Emptying files and putting something in a tree can be done in either order. -/
theorem bare_put (t : FileTree) (trail : Trail) (new : Entry) :
    (t.put trail new).bare = t.bare.put trail new.bare := by
  unfold FileTree.put bare
  rw [Entry.bare_put]

theorem isDirectory_bare (t : FileTree) (path : String) :
    t.bare.isDirectory path = t.isDirectory path := by
  unfold FileTree.isDirectory
  rw [find_bare]
  rcases t.find path with f | ⟨trail, e⟩
  · rfl
  · cases e <;> simp only [Except.map, Entry.bare_file, Entry.bare_link, Entry.bare_directory]

/-- A directory is made, or not made, alike if all files are empty. -/
theorem makeDirectory_bare (t : FileTree) (path : String) :
    t.bare.makeDirectory path = (t.makeDirectory path).map bare := by
  rw [makeDirectory_eq, makeDirectory_eq, goal_bare]
  rcases t.goal (Path.trimmed path) false with f | ⟨⟨trail, e⟩ | ⟨trail, name⟩⟩
  · rfl
  · rfl
  · simp only [Except.map, Goal.bare, bare_put, Entry.bare_directory, Entry.bareAll]

theorem makeDirectories_bare (fuel : Nat) (t : FileTree) (path : String) :
    t.bare.makeDirectories fuel path = (t.makeDirectories fuel path).map bare id := by
  induction fuel generalizing t path with
  | zero => rfl
  | succ fuel ih =>
    rw [makeDirectories, makeDirectories, makeDirectory_bare, ih, isDirectory_bare]
    split
    · rfl
    · rcases t.makeDirectory path with f | t'
      · cases f <;> try rfl
        rcases t.makeDirectories fuel (Path.parent path) with ⟨t₁, _ | f⟩
        · simp only [Except.map, Prod.map, id, makeDirectory_bare, isDirectory_bare]
          rcases t₁.makeDirectory path with f | t₂ <;> rfl
        · rfl
      · rfl

/-- Whether a file can be written depends on no content. -/
theorem write_bare (t : FileTree) (path : String) (content content' : ByteArray) :
    (t.bare.write path content').map (fun _ => ()) = (t.write path content).map fun _ => () := by
  unfold write
  rw [goal_bare, goal_bare]
  rcases t.goal path true with f | ⟨⟨trail, e⟩ | ⟨trail, name⟩⟩
  · by_cases hopen : (f = .missing && endsOpen path) = true
    · simp only [Except.map, hopen, if_true]
      rcases t.goal (Path.parent path) true with f | ⟨⟨trail, e⟩ | ⟨trail, name⟩⟩
      · rfl
      · cases e <;> simp only [Goal.bare, Entry.bare_file, Entry.bare_link, Entry.bare_directory]
      · rfl
    · simp only [Except.map, hopen]
      rfl
  · cases e <;> simp only [Except.map, Goal.bare, Entry.bare_file, Entry.bare_link,
      Entry.bare_directory]
  · rfl

/-- Whether saving a text stops, and why, depends on no text. -/
theorem save_bare (t : FileTree) (path text text' : String) :
    (t.bare.save path text').2 = (t.save path text).2 := by
  unfold save
  rw [makeDirectories_bare]
  -- only if the directories could be made is anything written
  rcases t.makeDirectories ((Path.names path).length + 1) (Path.parent path) with ⟨t₁, _ | f⟩
  · have hw := write_bare t₁ path text.toUTF8 text'.toUTF8
    simp only [Prod.map, id]
    cases h' : t₁.bare.write path text'.toUTF8 with
    | error f' =>
      cases h : t₁.write path text.toUTF8 with
      | error f =>
        rw [h, h'] at hw
        cases hw
        rfl
      | ok _ =>
        rw [h, h'] at hw
        cases hw
    | ok _ =>
      cases h : t₁.write path text.toUTF8 with
      | error f =>
        rw [h, h'] at hw
        cases hw
      | ok _ => rfl
  · rfl

end FileTree

end CallAtlas
