import CallAtlas.Files.Change

/-!
# Entries seen from their root

An entry is told apart by what each way from it leads to. `look` is that, with
directories seen without their members: what is put in an entry then changes `look` at
one way only (`look_put`), and two changes are compared way by way. `bare` is an entry
with all files empty, which keeps every way and the order of all members.
-/

namespace CallAtlas

namespace Entry

variable {e c new : Entry} {ms : List (String × Entry)} {name : String} {trail : Trail}

/-! ## Ways -/

@[simp]
theorem at?_nil (e : Entry) : e.at? [] = some e := by
  rw [at?]

/-- A way goes on from the member that its first name leads to. -/
theorem at?_cons (e : Entry) (name : String) (rest : Trail) :
    e.at? (name :: rest) = (e.child? name).bind (·.at? rest) := by
  rw [at?]

/-- A way in two parts leads to where the second leads from the end of the first. -/
theorem at?_append (e : Entry) (front rest : Trail) :
    e.at? (front ++ rest) = (e.at? front).bind (·.at? rest) := by
  induction front generalizing e with
  | nil => rw [List.nil_append, at?_nil, Option.bind_some]
  | cons name front ih =>
    rw [List.cons_append, at?_cons, at?_cons]
    cases e.child? name with
    | none => rfl
    | some c => exact ih c

@[simp]
theorem child?_directory (ms : List (String × Entry)) (name : String) :
    (directory ms).child? name = member? ms name := rfl

/-- The way to a member of a directory. -/
theorem at?_member (h : e.at? trail = some (.directory ms)) (name : String) :
    e.at? (trail ++ [name]) = member? ms name := by
  rw [at?_append, h, Option.bind_some, at?_cons, child?_directory]
  cases member? ms name with
  | none => rfl
  | some c => exact at?_nil c

/-! ## What a way leads to -/

/-- An entry without its members. -/
def shell : Entry → Entry
  | directory _ => directory []
  | e => e

/-- A file is all that looks like it, since it has no members. -/
theorem shell_eq_file {content : ByteArray} (h : e.shell = file content) : e = file content := by
  cases e <;> cases h
  rfl

/-- What a way leads to, without the members that it has. -/
def look (e : Entry) (trail : Trail) : Option Entry := (e.at? trail).map shell

/-- What is seen at the end of a way is seen from the member at its beginning. -/
theorem look_cons (e : Entry) (name : String) (rest : Trail) :
    e.look (name :: rest) = (e.child? name).bind (·.look rest) := by
  unfold look
  rw [at?_cons]
  cases e.child? name with
  | none => rfl
  | some c => rfl

theorem look_nil (e : Entry) : e.look [] = some e.shell := by
  unfold look
  rw [at?_nil]
  rfl

/-! ## Putting something in an entry -/

/-- A way on which something without members can be put such that nothing is lost but
the content of a file: it leads to a file, or to a free name in a directory. -/
inductive Settable : Entry → Trail → Prop
  | file (content : ByteArray) : Settable (.file content) []
  | free {ms : List (String × Entry)} {name : String} (hn : member? ms name = none) :
    Settable (.directory ms) [name]
  | under {ms : List (String × Entry)} {name : String} {c : Entry} {rest : Trail}
    (hc : member? ms name = some c) (h : Settable c rest) : Settable (.directory ms) (name :: rest)

/-- What can be put under an entry can be put there from the root too, on the way to the entry. -/
theorem Settable.append (h : e.at? trail = some c) {way : Trail} (hc : Settable c way) :
    Settable e (trail ++ way) := by
  induction trail generalizing e with
  | nil =>
    rw [at?_nil, Option.some.injEq] at h
    rw [h]
    exact hc
  | cons name rest ih =>
    rw [at?_cons] at h
    obtain ⟨inner, hi, hrest⟩ := Option.bind_eq_some_iff.mp h
    cases e with
    | directory ms => exact .under hi (ih hrest)
    | file content => cases hi
    | link target => cases hi

/-- The first member hides any later one of its name. -/
theorem member?_cons (m : String × Entry) (ms : List (String × Entry)) (name : String) :
    member? (m :: ms) name = if m.1 = name then some m.2 else member? ms name := by
  unfold member?
  rw [List.find?_cons]
  by_cases h : m.1 = name
  · rw [if_pos h, beq_iff_eq.mpr h]
    rfl
  · rw [if_neg h, beq_false_of_ne h]

/-- A member at the end is found if there is none of its name before it. -/
theorem member?_append_single (ms : List (String × Entry)) (m : String × Entry) (name : String) :
    member? (ms ++ [m]) name = (member? ms name).or (if m.1 = name then some m.2 else none) := by
  induction ms with
  | nil => rw [List.nil_append, member?_cons]; rfl
  | cons first ms ih =>
    rw [List.cons_append, member?_cons, member?_cons, ih]
    split <;> rfl

/-- A name is free just if no member has it. -/
theorem member?_eq_none_iff : member? ms name = none ↔ ms.any (·.1 == name) = false := by
  unfold member?
  rw [Option.map_eq_none_iff, List.find?_eq_none, List.any_eq_false]

/-- A member that is changed in its place. -/
theorem member?_map_set (ms : List (String × Entry)) (name : String) (new : Entry)
    (other : String) :
    member? (ms.map fun m => if m.1 == name then (name, new) else m) other =
      if other = name then (member? ms name).map fun _ => new else member? ms other := by
  induction ms with
  | nil => split <;> rfl
  | cons m ms ih =>
    rw [List.map_cons, member?_cons, ih, member?_cons, member?_cons]
    by_cases hm : m.1 = name
    · by_cases ho : other = name
      · simp [hm, ho]
      · simp [hm, ho, Ne.symm ho]
    · by_cases ho : other = name
      · simp [hm, ho]
      · simp [hm, ho]

/-- A member that is set is found under its name, and all others as before. -/
theorem member?_setMember (ms : List (String × Entry)) (name : String) (new : Entry)
    (other : String) :
    member? (setMember ms name new) other =
      if other = name then some new else member? ms other := by
  unfold setMember
  by_cases hany : ms.any (·.1 == name)
  · rw [if_pos hany, member?_map_set]
    cases hm : member? ms name with
    | none => rw [member?_eq_none_iff.mp hm] at hany; cases hany
    | some c => rfl
  · rw [if_neg hany, member?_append_single]
    by_cases ho : other = name
    · rw [if_pos ho, if_pos ho.symm, ho, member?_eq_none_iff.mpr (Bool.not_eq_true _ ▸ hany)]
      rfl
    · rw [if_neg ho, if_neg (Ne.symm ho), Option.or_none]

/-- What has no members. -/
inductive IsLeaf : Entry → Prop
  | file (content : ByteArray) : IsLeaf (.file content)
  | directory : IsLeaf (.directory [])

/-- In something without members there is nothing but itself. -/
theorem IsLeaf.look (h : IsLeaf new) (way : Trail) :
    new.look way = if way = [] then some new else none := by
  cases way with
  | nil =>
    rw [look_nil, if_pos rfl]
    cases h <;> rfl
  | cons name rest =>
    rw [look_cons, if_neg (List.cons_ne_nil name rest)]
    cases h <;> rfl

/-- Something without members that is put on a way changes what that way leads to, and
no other way. -/
theorem look_put (h : Settable e trail) (hnew : IsLeaf new) (way : Trail) :
    (e.put new trail).look way = if way = trail then some new else e.look way := by
  induction h generalizing way with
  | file content =>
    rw [put, hnew.look way, (IsLeaf.file content).look way]
    split <;> rfl
  | @free ms name hn =>
    rw [put, hn, if_pos List.isEmpty_nil]
    cases way with
    -- The directory itself has one member more, which its shell does not show.
    | nil => rw [look_nil, look_nil, if_neg (List.cons_ne_nil name []).symm]; rfl
    | cons first way =>
      rw [look_cons, look_cons, child?_directory, child?_directory, member?_setMember]
      by_cases hf : first = name
      · rw [if_pos hf, Option.bind_some, hnew.look, hf, hn]
        simp
      · rw [if_neg hf, if_neg (by simp [hf])]
  | @under ms name c rest hc _ ih =>
    rw [put, hc]
    cases way with
    | nil => rw [look_nil, look_nil, if_neg (List.cons_ne_nil name rest).symm]; rfl
    | cons first way =>
      rw [look_cons, look_cons, child?_directory, child?_directory, member?_setMember]
      by_cases hf : first = name
      · rw [if_pos hf, Option.bind_some, ih, hf, hc]
        simp
      · rw [if_neg hf, if_neg (by simp [hf])]

/-! ## Files without their contents -/

mutual

/-- An entry with empty files. -/
def bare : Entry → Entry
  | file _ => file .empty
  | link target => link target
  | directory ms => directory (bareAll ms)

/-- Members with empty files. -/
def bareAll : List (String × Entry) → List (String × Entry)
  | [] => []
  | (name, e) :: rest => (name, bare e) :: bareAll rest

end

@[simp]
theorem bare_file (content : ByteArray) : (file content).bare = file .empty := by
  rw [bare]

@[simp]
theorem bare_link (target : String) : (link target).bare = link target := by
  rw [bare]

@[simp]
theorem bare_directory (ms : List (String × Entry)) :
    (directory ms).bare = directory (bareAll ms) := by
  rw [bare]

/-- Members are emptied one by one, under their names and in their order. -/
theorem bareAll_eq_map (ms : List (String × Entry)) :
    bareAll ms = ms.map fun m => (m.1, m.2.bare) := by
  induction ms with
  | nil => rw [bareAll]; rfl
  | cons m ms ih => rw [bareAll, ih]; rfl

/-- A name leads to the same member, emptied. -/
theorem member?_bareAll (ms : List (String × Entry)) (name : String) :
    member? (bareAll ms) name = (member? ms name).map bare := by
  rw [bareAll_eq_map]
  induction ms with
  | nil => rfl
  | cons m ms ih =>
    rw [List.map_cons, member?_cons, member?_cons, ih]
    split <;> rfl

/-- A name leads to the same child, emptied, and nowhere if it led nowhere. -/
theorem child?_bare (e : Entry) (name : String) :
    e.bare.child? name = (e.child? name).map bare := by
  cases e with
  | file content => rw [bare_file]; rfl
  | link target => rw [bare_link]; rfl
  | directory ms => rw [bare_directory]; exact member?_bareAll ms name

/-- A way leads to the same entry, emptied: no way is lost and none is new. -/
theorem at?_bare (e : Entry) (trail : Trail) : e.bare.at? trail = (e.at? trail).map bare := by
  induction trail generalizing e with
  | nil => rw [at?_nil, at?_nil]; rfl
  | cons name rest ih =>
    rw [at?_cons, at?_cons, child?_bare]
    cases e.child? name with
    | none => rfl
    | some c => exact ih c

/-- Emptying files and setting a member can be done in either order. -/
theorem bareAll_setMember (ms : List (String × Entry)) (name : String) (new : Entry) :
    bareAll (setMember ms name new) = setMember (bareAll ms) name new.bare := by
  have hany : (bareAll ms).any (·.1 == name) = ms.any (·.1 == name) := by
    rw [bareAll_eq_map, List.any_map]
    rfl
  unfold setMember
  rw [hany]
  split
  · rw [bareAll_eq_map, bareAll_eq_map, List.map_map, List.map_map]
    refine List.map_congr_left fun m _ => ?_
    simp only [Function.comp_apply]
    split <;> rfl
  · rw [bareAll_eq_map, bareAll_eq_map, List.map_append]
    rfl

/-- Emptying files and putting something at the end of a way can be done in either order. -/
theorem bare_put (e new : Entry) (trail : Trail) :
    (e.put new trail).bare = e.bare.put new.bare trail := by
  induction trail generalizing e with
  | nil => rw [put, put]
  | cons name rest ih =>
    cases e with
    | file content => simp [put]
    | link target => simp [put]
    | directory ms =>
      rw [put, bare_directory, put, member?_bareAll]
      cases member? ms name with
      | some c => rw [bare_directory, bareAll_setMember, ih]; rfl
      | none =>
        cases rest with
        | nil =>
          change (directory (setMember ms name new)).bare = _
          rw [bare_directory, bareAll_setMember]
          rfl
        | cons _ _ => exact bare_directory ms

end Entry

end CallAtlas
