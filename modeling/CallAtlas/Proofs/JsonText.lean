import CallAtlas.Proofs.JsonTokens

/-!
# JSON texts read back

Both writers write the same tokens and differ only in the white space between them. So
there is one text of a value for each `Json.Spacing`, and the two writers are two spacings.
What is read of that text is the value, whatever the spacing (`Json.reads_text`), if all
its numbers are read back and no object has two members with one name (`Json.Legible`).

Structure: `Json.Reads` says that a value is read back wherever its text stands, with enough
fuel. It is proved by induction on the value; for lists and objects a second induction goes
through the items or members, with those that are already read.
-/

namespace CallAtlas

namespace Json

/-! ## One writer -/

/-- The white space of a text: where a new line can stand at a level, and behind a colon. -/
structure Spacing where
  line : Nat → List Char
  colon : List Char
  line_space : ∀ level, ∀ c ∈ line level, isSpace c = true
  colon_space : ∀ c ∈ colon, isSpace c = true

/-- No white space. -/
def dense : Spacing := ⟨fun _ => [], [], by simp, by simp⟩

/-- New lines, indented by two blanks per level. -/
def indented : Spacing :=
  { line := fun level => '\n' :: List.replicate (2 * level) ' '
    colon := [' ']
    line_space := by
      intro level c hc
      rcases List.mem_cons.mp hc with rfl | hc
      · decide
      · rw [List.eq_of_mem_replicate hc]
        decide
    colon_space := by
      intro c hc
      rw [List.mem_singleton.mp hc]
      decide }

/-- A value that is neither a list nor an object. -/
def scalarText : Json Float → List Char
  | null => ['n', 'u', 'l', 'l']
  | bool b => if b then ['t', 'r', 'u', 'e'] else ['f', 'a', 'l', 's', 'e']
  | int n => (toString n).toList
  | real x => ((floatText? x).getD "null").toList
  | str s => quoted s
  | arr _ | obj _ => []

mutual

/-- The text of a value at a level. -/
def text (s : Spacing) (level : Nat) : Json Float → List Char
  | arr [] => ['[', ']']
  | obj [] => ['\x7b', '\x7d']
  | arr (item :: rest) =>
    '[' :: (s.line (level + 1) ++ text s (level + 1) item ++ itemsText s (level + 1) rest ++
      s.line level ++ [']'])
  | obj ((name, value) :: rest) =>
    '\x7b' :: (s.line (level + 1) ++ quoted name ++ ':' :: s.colon ++ text s (level + 1) value ++
      membersText s (level + 1) rest ++ s.line level ++ ['\x7d'])
  | value => scalarText value

/-- The text of the items after the first. -/
def itemsText (s : Spacing) (level : Nat) : List (Json Float) → List Char
  | [] => []
  | item :: rest => ',' :: (s.line level ++ text s level item ++ itemsText s level rest)

/-- The text of the members after the first. -/
def membersText (s : Spacing) (level : Nat) : List (String × Json Float) → List Char
  | [] => []
  | (name, value) :: rest =>
    ',' :: (s.line level ++ quoted name ++ ':' :: s.colon ++ text s level value ++
      membersText s level rest)

end

/-- A value without parts is written behind what is there. -/
theorem pushScalar_toList (out : String) (v : Json Float) :
    (pushScalar out v).toList = out.toList ++ scalarText v := by
  cases v with
  | bool b => cases b <;> simp [pushScalar, scalarText]
  | str s => exact pushQuoted_toList out s
  | _ => simp [pushScalar, scalarText]

mutual

/-- The writer in one line writes the dense text behind what is there. This and the lemmas on
items and members are one induction on the value. -/
theorem pushCompact_toList (level : Nat) (out : String) : ∀ v : Json Float,
    (pushCompact out v).toList = out.toList ++ text dense level v
  | arr [] => by simp [pushCompact, pushItems, text]
  | obj [] => by simp [pushCompact, pushMembers, text]
  | arr (item :: rest) => by
    simp [pushCompact, pushItems, text, dense, pushItems_toList (level + 1) _ rest,
      pushCompact_toList (level + 1) _ item]
  | obj ((name, value) :: rest) => by
    simp [pushCompact, pushMembers, text, dense, pushMembers_toList (level + 1) _ rest,
      pushCompact_toList (level + 1) _ value, pushQuoted_toList]
  | null => by simp [pushCompact, text, pushScalar_toList]
  | bool b => by simp [pushCompact, text, pushScalar_toList]
  | int n => by simp [pushCompact, text, pushScalar_toList]
  | real x => by simp [pushCompact, text, pushScalar_toList]
  | str s => by simp [pushCompact, text, pushScalar_toList]

/-- The items of a list are written behind the first of them, each with a comma. -/
theorem pushItems_toList (level : Nat) (out : String) : ∀ items : List (Json Float),
    (pushItems out false items).toList = out.toList ++ itemsText dense level items
  | [] => by simp [pushItems, itemsText]
  | item :: rest => by
    simp [pushItems, itemsText, dense, pushItems_toList level _ rest,
      pushCompact_toList level _ item]

theorem pushMembers_toList (level : Nat) (out : String) : ∀ members : List (String × Json Float),
    (pushMembers out false members).toList = out.toList ++ membersText dense level members
  | [] => by simp [pushMembers, membersText]
  | (name, value) :: rest => by
    simp [pushMembers, membersText, dense, pushMembers_toList level _ rest,
      pushCompact_toList level _ value, pushQuoted_toList]

end

/-- A new line is indented by its level. -/
theorem pushLine_toList (out : String) (level : Nat) :
    (pushLine out level).toList = out.toList ++ indented.line level := by
  have hgap : ∀ (n : Nat) (out : String), ((List.replicate n "  ").foldl (· ++ ·) out).toList =
      out.toList ++ List.replicate (2 * n) ' ' := by
    intro n
    induction n with
    | zero => intro out; exact (List.append_nil _).symm
    | succ n ih =>
      intro out
      rw [List.replicate_succ, List.foldl_cons, ih, String.toList_append, List.append_assoc]
      rfl
  rw [pushLine, hgap, String.toList_push, List.append_assoc]
  rfl

mutual

/-- The writer with new lines writes the indented text behind what is there, by the same
induction. -/
theorem pushPretty_toList (level : Nat) (out : String) : ∀ v : Json Float,
    (pushPretty level out v).toList = out.toList ++ text indented level v
  | arr [] => by simp [pushPretty, text]
  | obj [] => by simp [pushPretty, text]
  | arr (item :: rest) => by
    simp [pushPretty, text, pushLine_toList, pushPrettyItems_toList (level + 1) _ rest,
      pushPretty_toList (level + 1) _ item]
  | obj ((name, value) :: rest) => by
    simp [pushPretty, text, pushLine_toList, pushPrettyMembers_toList (level + 1) _ rest,
      pushPretty_toList (level + 1) _ value, pushQuoted_toList, indented]
  | null => by simp [pushPretty, text, pushScalar_toList]
  | bool b => by simp [pushPretty, text, pushScalar_toList]
  | int n => by simp [pushPretty, text, pushScalar_toList]
  | real x => by simp [pushPretty, text, pushScalar_toList]
  | str s => by simp [pushPretty, text, pushScalar_toList]

theorem pushPrettyItems_toList (level : Nat) (out : String) : ∀ items : List (Json Float),
    (pushPrettyItems level out items).toList = out.toList ++ itemsText indented level items
  | [] => by simp [pushPrettyItems, itemsText]
  | item :: rest => by
    simp [pushPrettyItems, itemsText, pushLine_toList, pushPrettyItems_toList level _ rest,
      pushPretty_toList level _ item]

theorem pushPrettyMembers_toList (level : Nat) (out : String) :
    ∀ members : List (String × Json Float),
    (pushPrettyMembers level out members).toList = out.toList ++ membersText indented level members
  | [] => by simp [pushPrettyMembers, membersText]
  | (name, value) :: rest => by
    simp [pushPrettyMembers, membersText, pushLine_toList, pushPrettyMembers_toList level _ rest,
      pushPretty_toList level _ value, pushQuoted_toList, indented]

end

/-- The text in one line has no white space between its tokens. -/
theorem compact_toList (v : Json Float) : (compact v).toList = text dense 0 v := by
  rw [compact, pushCompact_toList 0]
  rfl

theorem pretty_toList (v : Json Float) : (pretty v).toList = text indented 0 v := by
  rw [pretty, pushPretty_toList]
  rfl

/-! ## What is read -/

/-- A value all of whose numbers are read back, and whose objects have no name twice. -/
inductive Legible : Json Float → Prop
  | null : Legible .null
  | bool (b : Bool) : Legible (.bool b)
  | int {n : Int} (h : InRange n) : Legible (.int n)
  | real {x : Float} (h : ReadsBack x) : Legible (.real x)
  | str (s : String) : Legible (.str s)
  | arr {items : List (Json Float)} (h : ∀ v ∈ items, Legible v) : Legible (.arr items)
  | obj {members : List (String × Json Float)} (hnames : (members.map Prod.fst).Nodup)
      (h : ∀ m ∈ members, Legible m.2) : Legible (.obj members)

/-- A text is read as a value wherever it stands, up to white space behind it. Each
character is worth two steps of the reader. -/
def Reads (v : Json Float) (cs : List Char) : Prop :=
  ∀ (fuel : Nat) (rest : List Char), Stops rest → 2 * cs.length < fuel →
    ∃ left, (∀ c ∈ left, isSpace c = true) ∧ value? fuel (cs ++ rest) = some (v, left ++ rest)

/-- White space is passed over. -/
theorem skipSpace_append {gap : List Char} (h : ∀ c ∈ gap, isSpace c = true) (cs : List Char) :
    skipSpace (gap ++ cs) = skipSpace cs := List.dropWhile_append_of_pos h

/-- So a value is read behind it as without it. -/
theorem value?_gap {gap : List Char} (h : ∀ c ∈ gap, isSpace c = true) (fuel : Nat)
    (cs : List Char) : value? fuel (gap ++ cs) = value? fuel cs := by
  rw [value?.eq_def, skipSpace_append h, ← value?.eq_def]

/-- A number ends in front of what no number goes on with. -/
theorem stops_cons {c : Char} (h : c.isDigit = false ∧ c ≠ '.' ∧ c ≠ 'e' ∧ c ≠ 'E')
    (cs : List Char) : Stops (c :: cs) := by
  intro d hd
  obtain rfl := Option.some.inj hd
  exact h

theorem stops_gap {gap cs : List Char} (h : ∀ c ∈ gap, isSpace c = true) (hcs : Stops cs) :
    Stops (gap ++ cs) := by
  cases gap with
  | nil => exact hcs
  | cons c gap =>
    have hc := h c (List.mem_cons_self ..)
    refine stops_cons ?_ _
    simp only [isSpace, Bool.or_eq_true, beq_iff_eq] at hc
    rcases hc with ((rfl | rfl) | rfl) | rfl <;> decide

/-! ## Scalars -/

theorem reads_numeral {v : Json Float} {cs : List Char} (h : Numeral v cs) : Reads v cs := by
  obtain ⟨negative, digits, left, rfl, hnumber, hleft⟩ := h
  intro fuel rest hrest hfuel
  obtain ⟨fuel, rfl⟩ := Nat.exists_eq_succ_of_ne_zero (Nat.ne_of_gt (Nat.zero_lt_of_lt hfuel))
  have happend := number?_append hrest hnumber
  refine ⟨left, hleft, ?_⟩
  cases negative with
  | true => rw [if_pos rfl, List.cons_append, value?_minus, happend]
  | false =>
    obtain ⟨c, cs, rfl, hc⟩ := head_of_number? hnumber
    rw [if_neg Bool.false_ne_true, List.cons_append, value?_digit hc, ← List.cons_append, happend]

/-- A word that stands for a value is read wherever it stands. -/
theorem reads_word {v : Json Float} {c : Char} {word : List Char}
    (h : ∀ fuel cs, value? (fuel + 1) (c :: cs) = word? word v cs) : Reads v (c :: word) := by
  intro fuel rest _ hfuel
  obtain ⟨fuel, rfl⟩ := Nat.exists_eq_succ_of_ne_zero (Nat.ne_of_gt (Nat.zero_lt_of_lt hfuel))
  refine ⟨[], by simp, ?_⟩
  rw [List.cons_append, h, word?, if_pos (by simp)]
  simp

/-- A quoted text is at least as long as the text with its marks, so that there is fuel for each
character. -/
theorem length_quoted (s : String) : s.toList.length + 2 ≤ (quoted s).length := by
  have hbody : ∀ cs : List Char, cs.length ≤ (cs.flatMap escaped).length := by
    intro cs
    induction cs with
    | nil => exact Nat.le_refl _
    | cons c cs ih =>
      have hc : 1 ≤ (escaped c).length := by
        rcases escaped_cases c with ⟨e, h, -⟩ | ⟨h, -⟩ | ⟨h, -⟩ <;> rw [h] <;> simp
      rw [List.flatMap_cons, List.length_append, List.length_cons]
      omega
  have := hbody s.toList
  rw [quoted, List.length_cons, List.length_append, List.length_singleton]
  omega

/-- A string is read behind its opening mark. -/
theorem stringOnto_quoted {s : String} {fuel : Nat} (h : (quoted s).length < fuel + 2)
    (rest : List Char) :
    ∃ body, quoted s = '"' :: body ∧ stringOnto "" fuel (body ++ rest) = some (s, rest) := by
  have hlength := length_quoted s
  refine ⟨_, rfl, ?_⟩
  rw [List.append_assoc, List.singleton_append, stringOnto_text _ _ _ _ (by omega)]
  simp

/-- A text is read wherever it stands. -/
theorem reads_quoted (s : String) : Reads (.str s) (quoted s) := by
  intro fuel rest _ hfuel
  obtain ⟨fuel, rfl⟩ := Nat.exists_eq_succ_of_ne_zero (Nat.ne_of_gt (Nat.zero_lt_of_lt hfuel))
  obtain ⟨body, hbody, hread⟩ :=
    stringOnto_quoted (show (quoted s).length < fuel + 1 + 2 by omega) rest
  refine ⟨[], by simp, ?_⟩
  rw [hbody, List.cons_append, value?_cons (by decide)]
  simp [hread]

/-! ## Lists and objects -/

/-- Every text begins with a mark that is no white space and closes no list. -/
def Opens (cs : List Char) : Prop := ∃ c rest, cs = c :: rest ∧ isSpace c = false ∧ c ≠ ']'

/-- What stands behind a value in a list or an object is no part of a number. -/
theorem stops_itemsText (s : Spacing) (level outer : Nat) (items : List (Json Float))
    (tail : List Char) : Stops (itemsText s level items ++ (s.line outer ++ ']' :: tail)) := by
  cases items with
  | nil =>
    rw [itemsText, List.nil_append]
    exact stops_gap (s.line_space outer) (stops_cons (by decide) tail)
  | cons item items =>
    rw [itemsText, List.cons_append]
    exact stops_cons (by decide) _

/-- A number that is a value of a member ends in front of the next one or of the end of the
object. -/
theorem stops_membersText (s : Spacing) (level outer : Nat) (members : List (String × Json Float))
    (tail : List Char) :
    Stops (membersText s level members ++ (s.line outer ++ '\x7d' :: tail)) := by
  cases members with
  | nil =>
    rw [membersText, List.nil_append]
    exact stops_gap (s.line_space outer) (stops_cons (by decide) tail)
  | cons m members =>
    obtain ⟨name, value⟩ := m
    rw [membersText, List.cons_append]
    exact stops_cons (by decide) _

/-- Reading one item, and then looking at what stands behind it. -/
theorem itemsOnto_step {v : Json Float} {text gap cs : List Char} {fuel : Nat}
    (hv : Reads v text) (hgap : ∀ c ∈ gap, isSpace c = true) (hcs : Stops cs)
    (hfuel : 2 * text.length < fuel) (done : List (Json Float)) :
    itemsOnto (fuel + 1) done (gap ++ (text ++ cs)) = match skipSpace cs with
      | ',' :: rest => itemsOnto fuel (v :: done) rest
      | ']' :: rest => some (.arr (v :: done).reverse, rest)
      | _ => none := by
  obtain ⟨left, hleft, hvalue⟩ := hv fuel cs hcs hfuel
  rw [itemsOnto, value?_gap hgap, hvalue]
  dsimp only
  rewrite [skipSpace_append hleft]
  rfl

/-- The items of a list are read, the first of them and those after it. -/
theorem itemsOnto_text (s : Spacing) (level outer : Nat) (items : List (Json Float)) :
    ∀ (v : Json Float) (done : List (Json Float)) (fuel : Nat) (gap tail : List Char),
    (∀ w ∈ v :: items, Reads w (text s level w)) → (∀ c ∈ gap, isSpace c = true) →
    2 * ((text s level v).length + (itemsText s level items).length) + 2 ≤ fuel →
    itemsOnto fuel done
        (gap ++ (text s level v ++ (itemsText s level items ++ (s.line outer ++ ']' :: tail)))) =
      some (.arr (done.reverse ++ v :: items), tail) := by
  induction items with
  | nil =>
    intro v done fuel gap tail hreads hgap hfuel
    obtain ⟨fuel, rfl⟩ := Nat.exists_eq_succ_of_ne_zero (show fuel ≠ 0 by omega)
    rw [itemsOnto_step (hreads v (List.mem_cons_self ..)) hgap
      (stops_itemsText s level outer [] tail) (by omega), itemsText, List.nil_append,
      skipSpace_append (s.line_space outer), skipSpace_cons (by decide)]
    simp
  | cons w items ih =>
    intro v done fuel gap tail hreads hgap hfuel
    obtain ⟨hv, hrest⟩ := List.forall_mem_cons.mp hreads
    obtain ⟨fuel, rfl⟩ := Nat.exists_eq_succ_of_ne_zero (show fuel ≠ 0 by omega)
    have hlength : (itemsText s level (w :: items)).length = (s.line level).length +
        (text s level w).length + (itemsText s level items).length + 1 := by
      simp [itemsText]
      omega
    have hnext := ih w (v :: done) fuel (s.line level) tail hrest (s.line_space level) (by omega)
    rw [itemsOnto_step hv hgap (stops_itemsText s level outer (w :: items) tail) (by omega),
      itemsText, List.cons_append, skipSpace_cons (by decide)]
    simpa using hnext

/-- A member with a new name goes behind the others. -/
theorem put_of_not_mem {members : List (String × Json Float)} {name : String}
    (h : name ∉ members.map Prod.fst) (value : Json Float) :
    put members name value = members ++ [(name, value)] := by
  have hany : members.any (·.1 == name) = false := by
    rw [List.any_eq_false]
    intro m hm heq
    exact h (List.mem_map.mpr ⟨m, hm, beq_iff_eq.mp heq⟩)
  rw [put, hany]
  rfl

/-- Where all names are different, the next one is not among those that have been read. -/
theorem new_name {done members : List (String × Json Float)} {name : String} {v : Json Float}
    (h : ((done ++ (name, v) :: members).map Prod.fst).Nodup) : name ∉ done.map Prod.fst := by
  rw [List.map_append, List.map_cons] at h
  intro hmem
  exact (List.nodup_append.mp h).2.2 name hmem name (List.mem_cons_self ..) rfl

theorem membersOnto_step {name : String} {v : Json Float} {text gap colon cs : List Char}
    {fuel : Nat} {done : List (String × Json Float)}
    (hv : Reads v text) (hname : name ∉ done.map Prod.fst)
    (hgap : ∀ c ∈ gap, isSpace c = true) (hcolon : ∀ c ∈ colon, isSpace c = true)
    (hcs : Stops cs) (hfuel : 2 * ((quoted name).length + text.length) < fuel) :
    membersOnto (fuel + 1) done (gap ++ (quoted name ++ ':' :: (colon ++ (text ++ cs)))) =
      match skipSpace cs with
      | ',' :: rest => membersOnto fuel (done ++ [(name, v)]) rest
      | '\x7d' :: rest => some (.obj (done ++ [(name, v)]), rest)
      | _ => none := by
  obtain ⟨left, hleft, hvalue⟩ := hv fuel cs hcs (by omega)
  obtain ⟨body, hbody, hread⟩ := stringOnto_quoted
    (show (quoted name).length < fuel + 1 + 2 by omega) (':' :: (colon ++ (text ++ cs)))
  have hfront : skipSpace (gap ++ (quoted name ++ ':' :: (colon ++ (text ++ cs)))) =
      '"' :: (body ++ ':' :: (colon ++ (text ++ cs))) := by
    rw [skipSpace_append hgap, hbody, List.cons_append, skipSpace_cons (by decide)]
  have hmark : skipSpace (':' :: (colon ++ (text ++ cs))) = ':' :: (colon ++ (text ++ cs)) :=
    skipSpace_cons (by decide) _
  rw [membersOnto.eq_def, hfront]
  simp only [hread, hmark, value?_gap hcolon, hvalue, skipSpace_append hleft]
  rewrite [put_of_not_mem hname]
  rfl

theorem membersOnto_text (s : Spacing) (level outer : Nat) (members : List (String × Json Float)) :
    ∀ (name : String) (v : Json Float) (done : List (String × Json Float)) (fuel : Nat)
      (gap tail : List Char),
    (∀ m ∈ (name, v) :: members, Reads m.2 (text s level m.2)) →
    ((done ++ (name, v) :: members).map Prod.fst).Nodup → (∀ c ∈ gap, isSpace c = true) →
    2 * ((quoted name).length + (text s level v).length + (membersText s level members).length) +
      2 ≤ fuel →
    membersOnto fuel done (gap ++ (quoted name ++ ':' :: (s.colon ++ (text s level v ++
        (membersText s level members ++ (s.line outer ++ '\x7d' :: tail)))))) =
      some (.obj (done ++ (name, v) :: members), tail) := by
  induction members with
  | nil =>
    intro name v done fuel gap tail hreads hnames hgap hfuel
    obtain ⟨fuel, rfl⟩ := Nat.exists_eq_succ_of_ne_zero (show fuel ≠ 0 by omega)
    have hv : Reads v (text s level v) := hreads (name, v) (List.mem_cons_self ..)
    rw [membersOnto_step hv (new_name hnames) hgap s.colon_space
      (stops_membersText s level outer [] tail) (by omega), membersText, List.nil_append,
      skipSpace_append (s.line_space outer), skipSpace_cons (by decide)]
    rfl
  | cons m members ih =>
    intro name v done fuel gap tail hreads hnames hgap hfuel
    obtain ⟨next, w⟩ := m
    obtain ⟨hv, hrest⟩ := List.forall_mem_cons.mp hreads
    change Reads v (text s level v) at hv
    obtain ⟨fuel, rfl⟩ := Nat.exists_eq_succ_of_ne_zero (show fuel ≠ 0 by omega)
    have hlength : (membersText s level ((next, w) :: members)).length = (s.line level).length +
        (quoted next).length + s.colon.length + (text s level w).length +
        (membersText s level members).length + 2 := by
      simp [membersText]
      omega
    have hnext := ih next w (done ++ [(name, v)]) fuel (s.line level) tail hrest
      (by simpa using hnames) (s.line_space level) (by omega)
    rw [membersOnto_step hv (new_name hnames) hgap s.colon_space
      (stops_membersText s level outer ((next, w) :: members) tail) (by omega),
      membersText, List.cons_append, skipSpace_cons (by decide)]
    simpa using hnext

/-! ## Values -/

theorem opens_numeral {v : Json Float} {cs : List Char} (h : Numeral v cs) : Opens cs := by
  obtain ⟨negative, digits, left, rfl, hnumber, -⟩ := h
  cases negative with
  | true => exact ⟨'-', digits, rfl, by decide⟩
  | false =>
    obtain ⟨c, rest, rfl, hc⟩ := head_of_number? hnumber
    refine ⟨c, rest, rfl, isSpace_of_digit hc, ?_⟩
    rintro rfl
    exact absurd hc (by decide)

/-- The text of every value begins with such a mark. -/
theorem opens_text (s : Spacing) (level : Nat) {v : Json Float} (h : Legible v) :
    Opens (text s level v) := by
  cases h with
  | null => exact ⟨'n', ['u', 'l', 'l'], by simp [text, scalarText], by decide⟩
  | bool b =>
    cases b with
    | true => exact ⟨'t', ['r', 'u', 'e'], by simp [text, scalarText], by decide⟩
    | false => exact ⟨'f', ['a', 'l', 's', 'e'], by simp [text, scalarText], by decide⟩
  | int h => simpa [text, scalarText] using opens_numeral (numeral_int h)
  | real h => simpa [text, scalarText] using opens_numeral (numeral_real h)
  | str s => exact ⟨'"', _, by simp [text, scalarText, quoted]; rfl, by decide⟩
  | @arr items h =>
    cases items with
    | nil => exact ⟨'[', [']'], by simp [text], by decide⟩
    | cons item rest => exact ⟨'[', _, by rw [text], by decide⟩
  | @obj members hnames h =>
    cases members with
    | nil => exact ⟨'\x7b', ['\x7d'], by simp [text], by decide⟩
    | cons m rest =>
      obtain ⟨name, v⟩ := m
      exact ⟨'\x7b', _, by rw [text], by decide⟩

/-- A list with items is read item by item. -/
theorem value?_list {gap cs : List Char} (hgap : ∀ c ∈ gap, isSpace c = true) (hcs : Opens cs)
    (fuel : Nat) (tail : List Char) :
    value? (fuel + 1) ('[' :: (gap ++ (cs ++ tail))) = itemsOnto fuel [] (cs ++ tail) := by
  obtain ⟨c, rest, rfl, hspace, hclose⟩ := hcs
  have hfront : skipSpace (gap ++ c :: (rest ++ tail)) = c :: (rest ++ tail) := by
    rw [skipSpace_append hgap, skipSpace_cons hspace]
  rw [value?_cons (by decide), List.cons_append, hfront]
  simp [hclose]

theorem value?_object {gap : List Char} (hgap : ∀ c ∈ gap, isSpace c = true) (fuel : Nat)
    (name : String) (tail : List Char) :
    value? (fuel + 1) ('\x7b' :: (gap ++ (quoted name ++ tail))) =
      membersOnto fuel [] (quoted name ++ tail) := by
  have hfront : skipSpace (gap ++ (quoted name ++ tail)) = quoted name ++ tail := by
    rw [skipSpace_append hgap, quoted, List.cons_append, skipSpace_cons (by decide)]
  rw [value?_cons (by decide), hfront]
  simp [quoted]

/-- A list is read if each of its items is. -/
theorem reads_arr (s : Spacing) (level : Nat) {items : List (Json Float)}
    (h : ∀ w ∈ items, Legible w) (ih : ∀ w ∈ items, ∀ level, Reads w (text s level w)) :
    Reads (.arr items) (text s level (.arr items)) := by
  intro fuel rest hrest hfuel
  -- one step of fuel opens the list, and the rest is enough for what is in it
  obtain ⟨fuel, rfl⟩ := Nat.exists_eq_succ_of_ne_zero (Nat.ne_of_gt (Nat.zero_lt_of_lt hfuel))
  refine ⟨[], by simp, ?_⟩
  cases items with
  | nil =>
    have hclose : skipSpace (']' :: rest) = ']' :: rest := skipSpace_cons (by decide) rest
    rw [text, List.cons_append, value?_cons (by decide)]
    simp [hclose]
  | cons item items =>
    have hshape : text s level (.arr (item :: items)) ++ rest =
        '[' :: (s.line (level + 1) ++ (text s (level + 1) item ++
          (itemsText s (level + 1) items ++ (s.line level ++ ']' :: rest)))) := by
      simp [text]
    have hlength : (text s level (.arr (item :: items))).length =
        (s.line (level + 1)).length + (text s (level + 1) item).length +
          (itemsText s (level + 1) items).length + (s.line level).length + 2 := by
      simp [text]
      omega
    rw [hshape, value?_list (s.line_space (level + 1))
      (opens_text s (level + 1) (h item (List.mem_cons_self ..)))]
    exact itemsOnto_text s (level + 1) level items item [] fuel [] rest
      (fun w hw => ih w hw (level + 1)) (by simp) (by omega)

/-- An object is read if the value of each member is, and no two members have one name. -/
theorem reads_obj (s : Spacing) (level : Nat) {members : List (String × Json Float)}
    (hnames : (members.map Prod.fst).Nodup)
    (ih : ∀ m ∈ members, ∀ level, Reads m.2 (text s level m.2)) :
    Reads (.obj members) (text s level (.obj members)) := by
  intro fuel rest hrest hfuel
  obtain ⟨fuel, rfl⟩ := Nat.exists_eq_succ_of_ne_zero (Nat.ne_of_gt (Nat.zero_lt_of_lt hfuel))
  refine ⟨[], by simp, ?_⟩
  cases members with
  | nil =>
    have hclose : skipSpace ('\x7d' :: rest) = '\x7d' :: rest := skipSpace_cons (by decide) rest
    rw [text, List.cons_append, value?_cons (by decide)]
    simp [hclose]
  | cons m members =>
    obtain ⟨name, v⟩ := m
    have hshape : text s level (.obj ((name, v) :: members)) ++ rest =
        '\x7b' :: (s.line (level + 1) ++ (quoted name ++ ':' :: (s.colon ++
          (text s (level + 1) v ++ (membersText s (level + 1) members ++
            (s.line level ++ '\x7d' :: rest)))))) := by
      simp [text]
    have hlength : (text s level (.obj ((name, v) :: members))).length =
        (s.line (level + 1)).length + (quoted name).length + s.colon.length +
          (text s (level + 1) v).length + (membersText s (level + 1) members).length +
            (s.line level).length + 3 := by
      simp [text]
      omega
    rw [hshape, value?_object (s.line_space (level + 1))]
    exact membersOnto_text s (level + 1) level members name v [] fuel [] rest
      (fun m hm => ih m hm (level + 1)) hnames (by simp) (by omega)

/-- **A value is read back from its text**, however it is spaced. -/
theorem reads_text (s : Spacing) {v : Json Float} (h : Legible v) :
    ∀ level, Reads v (text s level v) := by
  induction h with
  | null =>
    intro level
    have htext : text s level .null = ['n', 'u', 'l', 'l'] := by simp [text, scalarText]
    rw [htext]
    exact reads_word fun fuel cs => by rw [value?_cons (by decide)]; rfl
  | bool b =>
    intro level
    cases b with
    | true =>
      have htext : text s level (.bool true) = ['t', 'r', 'u', 'e'] := by simp [text, scalarText]
      rw [htext]
      exact reads_word fun fuel cs => by rw [value?_cons (by decide)]; rfl
    | false =>
      have htext : text s level (.bool false) = ['f', 'a', 'l', 's', 'e'] := by
        simp [text, scalarText]
      rw [htext]
      exact reads_word fun fuel cs => by rw [value?_cons (by decide)]; rfl
  | int h =>
    intro level
    simpa [text, scalarText] using reads_numeral (numeral_int h)
  | real h =>
    intro level
    simpa [text, scalarText] using reads_numeral (numeral_real h)
  | str _ =>
    intro level
    simpa [text, scalarText] using reads_quoted _
  | arr h ih => exact fun level => reads_arr s level h ih
  | obj hnames _ ih => exact fun level => reads_obj s level hnames ih

/-- The text of a value is read as the value. -/
theorem read?_text (s : Spacing) {v : Json Float} (h : Legible v) {out : String}
    (hout : out.toList = text s 0 v) : read? out = some v := by
  obtain ⟨left, hleft, hvalue⟩ := reads_text s h 0 (2 * out.toList.length + 1) []
    (fun _ hc => nomatch hc) (by rw [hout]; omega)
  have hempty : skipSpace left = [] := List.dropWhile_eq_nil_iff.mpr hleft
  rw [List.append_nil, List.append_nil, ← hout] at hvalue
  rw [read?]
  simp [hvalue, hempty]

/-- **What is written in one line is read back.** -/
theorem read?_compact {v : Json Float} (h : Legible v) : read? (compact v) = some v :=
  read?_text dense h (compact_toList v)

/-- **What is written with new lines is read back.** -/
theorem read?_pretty {v : Json Float} (h : Legible v) : read? (pretty v) = some v :=
  read?_text indented h (pretty_toList v)

end Json

end CallAtlas
