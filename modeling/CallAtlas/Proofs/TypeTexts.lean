import CallAtlas.Proofs.Outline

/-!
# Texts of types, read back

A type means the members of a union, a type that is no union being its only member. A
member is a name, or an array of what a type means. `TypeText.read?` takes a text apart in
the way types are written: brackets belong to the one operand before them, bars part the
members of a union, and parentheses make one operand of what they hold.

What a text reads as is put together by rules, one for each way in which texts are put
together (`Reads`, `Operand`). From them it follows that the text of a type reads as the
type means (`read?_render`). What a tree means (`SyntaxTree.meaning`) is said without that
text. The two agree as long as each type in an array or a union is a node of a rule. A type
that is a fixed text is lost there, and then so many words and brackets are missing that the
text cannot mean the same (`TypeText.weight`).
-/

namespace CallAtlas

/-- A member of a type: a name, or an array of the members of another type. -/
inductive TypeMember where
  | name (text : String)
  | array (element : List TypeMember)
  deriving Inhabited, Repr

namespace TypeMember

mutual

/-- Whether two members are the same. -/
def decideEq (a b : TypeMember) : Decidable (a = b) :=
  match a, b with
  | name s, name t =>
    if h : s = t then isTrue (by rw [h]) else isFalse fun heq => h (TypeMember.name.inj heq)
  | array xs, array ys =>
    match decideEqAll xs ys with
    | isTrue h => isTrue (by rw [h])
    | isFalse h => isFalse fun heq => h (TypeMember.array.inj heq)
  | name _, array _ => isFalse nofun
  | array _, name _ => isFalse nofun

/-- Whether two lists of members are the same. -/
def decideEqAll (xs ys : List TypeMember) : Decidable (xs = ys) :=
  match xs, ys with
  | [], [] => isTrue rfl
  | x :: xs, y :: ys =>
    match decideEq x y, decideEqAll xs ys with
    | isTrue h, isTrue hs => isTrue (by rw [h, hs])
    | isFalse h, _ => isFalse fun heq => h (List.cons.inj heq).1
    | _, isFalse hs => isFalse fun heq => hs (List.cons.inj heq).2
  | [], _ :: _ => isFalse nofun
  | _ :: _, [] => isFalse nofun

end

instance : DecidableEq TypeMember := decideEq

mutual

/-- The number of names and arrays of a member. -/
def weight : TypeMember → Nat
  | name _ => 1
  | array element => weightAll element + 1

/-- The number of names and arrays of some members. -/
def weightAll : List TypeMember → Nat
  | [] => 0
  | m :: rest => weight m + weightAll rest

end

/-- Two runs of members have all their names and arrays together. -/
theorem weightAll_append (xs ys : List TypeMember) :
    weightAll (xs ++ ys) = weightAll xs + weightAll ys := by
  induction xs with
  | nil => rw [List.nil_append, weightAll, Nat.zero_add]
  | cons x xs ih => rw [List.cons_append, weightAll, weightAll, ih, Nat.add_assoc]

end TypeMember

/-! ## Reading -/

namespace TypeText

/-- What the text of a type is made of. -/
inductive Token where
  | word (text : String)
  | bar
  | brackets
  | opening
  | closing
  deriving DecidableEq, Inhabited, Repr

/-- Characters that are in no word. -/
def marks : List Char := ['|', '(', ')', '[', ']']

/-- The word of some letters, without white space around it. The last letter comes first. -/
def wordOf (letters : List Char) : List Token :=
  let text := Blank.trim (String.ofList letters.reverse)
  if text.isEmpty then [] else [.word text]

/-- The tokens of a text behind the letters of a word. -/
def tokensOnto (letters : List Char) : List Char → List Token
  | [] => wordOf letters
  | '|' :: rest => wordOf letters ++ .bar :: tokensOnto [] rest
  | '(' :: rest => wordOf letters ++ .opening :: tokensOnto [] rest
  | ')' :: rest => wordOf letters ++ .closing :: tokensOnto [] rest
  | '[' :: ']' :: rest => wordOf letters ++ .brackets :: tokensOnto [] rest
  | c :: rest => tokensOnto (c :: letters) rest

/-- What has been read of a type. -/
structure Reading where
  /-- The members before the last bar. -/
  members : List TypeMember
  /-- What stands behind that bar. -/
  operand : Option (List TypeMember)
  /-- The members before the last bar around each open parenthesis, the nearest first. -/
  around : List (List TypeMember)
  deriving Inhabited, Repr

/-- Reads one token more. -/
def Reading.step : Reading → Token → Option Reading
  | ⟨members, none, around⟩, .word text => some ⟨members, some [.name text], around⟩
  | ⟨members, some operand, around⟩, .brackets => some ⟨members, some [.array operand], around⟩
  | ⟨members, some operand, around⟩, .bar => some ⟨members ++ operand, none, around⟩
  | ⟨members, none, around⟩, .opening => some ⟨[], none, members :: around⟩
  | ⟨members, some operand, outer :: around⟩, .closing =>
    some ⟨outer, some (members ++ operand), around⟩
  | _, _ => none

/-- What has been read when the text is at its end. -/
def Reading.finish? : Reading → Option (List TypeMember)
  | ⟨members, some operand, []⟩ => some (members ++ operand)
  | _ => none

/-- What some tokens mean. -/
def readTokens? (ts : List Token) : Option (List TypeMember) :=
  (ts.foldlM Reading.step ⟨[], none, []⟩).bind Reading.finish?

/-- What a text means. -/
def read? (text : String) : Option (List TypeMember) := readTokens? (tokensOnto [] text.toList)

/-! ### Rules -/

/-- Tokens that read as one operand. -/
def Operand (ts : List Token) (ms : List TypeMember) : Prop :=
  ∀ members around, ts.foldlM Reading.step ⟨members, none, around⟩ = some ⟨members, some ms, around⟩

/-- Tokens that read as a type, which may be a union. -/
def Reads (ts : List Token) (ms : List TypeMember) : Prop :=
  ∀ members around, ∃ before last,
    ts.foldlM Reading.step ⟨members, none, around⟩ = some ⟨before, some last, around⟩ ∧
    before ++ last = members ++ ms

variable {ts us : List Token} {ms ns : List TypeMember}

/-- One operand is a type. -/
theorem Operand.reads (h : Operand ts ms) : Reads ts ms :=
  fun members around => ⟨members, ms, h members around, rfl⟩

/-- A word is the name that it is. -/
theorem operand_word (text : String) : Operand [.word text] [.name text] := fun _ _ => rfl

/-- Brackets make an array of the operand before them. -/
theorem Operand.array (h : Operand ts ms) : Operand (ts ++ [.brackets]) [.array ms] := by
  intro members around
  rw [List.foldlM_append, h members around]
  rfl

/-- Parentheses make one operand of all that is in them. -/
theorem Reads.grouped (h : Reads ts ms) : Operand (.opening :: ts ++ [.closing]) ms := by
  intro members around
  obtain ⟨before, last, hrun, hms⟩ := h [] (members :: around)
  have hopen : (Token.opening :: ts).foldlM Reading.step ⟨members, none, around⟩ =
      ts.foldlM Reading.step ⟨[], none, members :: around⟩ := rfl
  rw [List.foldlM_append, hopen, hrun]
  show some (Reading.mk members (some (before ++ last)) around) = _
  rw [hms, List.nil_append]

/-- A bar puts the members behind it after those before it. -/
theorem Reads.union (h : Reads ts ms) (h' : Reads us ns) : Reads (ts ++ .bar :: us) (ms ++ ns) := by
  intro members around
  obtain ⟨before, last, hrun, hms⟩ := h members around
  obtain ⟨before', last', hrun', hns⟩ := h' (before ++ last) around
  refine ⟨before', last', ?_, ?_⟩
  · rw [List.foldlM_append, hrun]
    exact hrun'
  · rw [hns, hms, List.append_assoc]

/-- What reads as a type is read as one when nothing else is there. -/
theorem Reads.readTokens? (h : Reads ts ms) : readTokens? ts = some ms := by
  obtain ⟨before, last, hrun, hms⟩ := h [] []
  rw [TypeText.readTokens?, hrun]
  exact congrArg some hms

example : read? "A | B[]" = some [.name "A", .array [.name "B"]] ∧
    read? "(A | B)[]" = some [.array [.name "A", .name "B"]] := by
  decide +kernel

/-! ### Weights -/

/-- Whether a token is a name or makes an array. -/
def Token.weighs : Token → Bool
  | word _ => true
  | brackets => true
  | _ => false

/-- The number of names and arrays that have been read. -/
def Reading.weight (r : Reading) : Nat :=
  TypeMember.weightAll r.members + TypeMember.weightAll (r.operand.getD []) +
    TypeMember.weightAll r.around.flatten

/-- Each word and each pair of brackets adds one name or array, and no other token does. -/
theorem weight_step {r r' : Reading} {token : Token} (h : r.step token = some r') :
    r'.weight = r.weight + [token].countP Token.weighs := by
  unfold Reading.step at h
  split at h
  all_goals
    cases h
    try simp [Reading.weight, TypeMember.weightAll_append, TypeMember.weightAll,
      TypeMember.weight, Token.weighs]
    try omega

/-- So some tokens add as many as there are words and brackets among them. -/
theorem weight_foldlM {r r' : Reading} (h : ts.foldlM Reading.step r = some r') :
    r'.weight = r.weight + ts.countP Token.weighs := by
  induction ts generalizing r with
  | nil =>
    cases h
    rfl
  | cons token ts ih =>
    rw [List.foldlM_cons] at h
    obtain ⟨next, hnext, hrest⟩ := Option.bind_eq_some_iff.mp h
    rw [ih hrest, weight_step hnext, Nat.add_assoc, ← List.countP_append]
    rfl

/-- Nothing is lost in reading: as many names and arrays are meant as are written. -/
theorem weight_readTokens? (h : readTokens? ts = some ms) :
    ts.countP Token.weighs = TypeMember.weightAll ms := by
  obtain ⟨⟨members, operand, around⟩, hrun, hfinish⟩ := Option.bind_eq_some_iff.mp h
  have hweight := weight_foldlM hrun
  cases operand with
  | none => cases hfinish
  | some operand =>
    cases around with
    | cons outer around => cases hfinish
    | nil =>
      obtain rfl := Option.some.inj hfinish
      simp [Reading.weight, TypeMember.weightAll] at hweight
      rw [TypeMember.weightAll_append, hweight]

/-! ### Words -/

/-- Whether a text is read as one word. -/
def isWord (text : String) : Bool :=
  text.toList.all (!marks.contains ·) && Blank.trim text == text && !text.isEmpty

theorem trim_toList (s : String) : (Blank.trim s).toList =
    ((s.toList.dropWhile Blank.isBlank).reverse.dropWhile Blank.isBlank).reverse := by
  rw [Blank.trim, Blank.dropEnds, Blank.dropEnd, Blank.dropStart, String.toList_ofList,
    String.toList_ofList]

/-- A blank at the front is trimmed off. -/
theorem trim_blank_start (cs : List Char) :
    Blank.trim (String.ofList (' ' :: cs)) = Blank.trim (String.ofList cs) := by
  rw [← String.toList_inj, trim_toList, trim_toList, String.toList_ofList, String.toList_ofList,
    List.dropWhile_cons_of_pos (by decide)]

theorem trim_blank_end (cs : List Char) :
    Blank.trim (String.ofList (cs ++ [' '])) = Blank.trim (String.ofList cs) := by
  rw [← String.toList_inj, trim_toList, trim_toList, String.toList_ofList, String.toList_ofList,
    List.dropWhile_append]
  by_cases hnil : (cs.dropWhile Blank.isBlank).isEmpty
  · rw [if_pos hnil, List.isEmpty_iff.mp hnil]
    rfl
  · rw [if_neg hnil, List.reverse_append, List.reverse_singleton, List.singleton_append,
      List.dropWhile_cons_of_pos (by decide)]

/-- A word does not have the blank behind it. -/
theorem wordOf_blank_last (letters : List Char) : wordOf (' ' :: letters) = wordOf letters := by
  rw [wordOf, wordOf, List.reverse_cons, trim_blank_end]

theorem wordOf_blank_first (letters : List Char) :
    wordOf (letters ++ [' ']) = wordOf letters := by
  rw [wordOf, wordOf, List.reverse_append, List.reverse_singleton, List.singleton_append,
    trim_blank_start]

/-- A letter goes on with a word. -/
theorem tokensOnto_letter {c : Char} (hc : c ∉ marks) (letters rest : List Char) :
    tokensOnto letters (c :: rest) = tokensOnto (c :: letters) rest := by
  rw [tokensOnto]
  all_goals
    intros
    subst_vars
    exact absurd (by decide) hc

theorem tokensOnto_letters {cs : List Char} (hcs : ∀ c ∈ cs, c ∉ marks) (letters rest : List Char) :
    tokensOnto letters (cs ++ rest) = tokensOnto (cs.reverse ++ letters) rest := by
  induction cs generalizing letters with
  | nil => rfl
  | cons c cs ih =>
    obtain ⟨hc, hcs⟩ := List.forall_mem_cons.mp hcs
    rw [List.cons_append, tokensOnto_letter hc, ih hcs, List.reverse_cons, List.append_assoc]
    rfl

/-- White space before a word is no part of it. -/
theorem tokensOnto_blank (letters cs : List Char) :
    tokensOnto (letters ++ [' ']) cs = tokensOnto letters cs := by
  fun_induction tokensOnto letters cs with
  | case1 letters => exact wordOf_blank_first letters
  | case6 letters c rest h₁ h₂ h₃ h₄ ih =>
    rw [tokensOnto, ← ih, List.cons_append]
    all_goals assumption
  | _ => rw [tokensOnto, wordOf_blank_first]

/-! ### Texts -/

/-- A text at the front of which no word goes on. -/
def Parted (rest : List Char) : Prop :=
  ∀ letters, tokensOnto letters rest = wordOf letters ++ tokensOnto [] rest

theorem parted_nil : Parted [] := fun _ => (List.append_nil _).symm

theorem parted_closing (rest : List Char) : Parted (')' :: rest) := fun _ => rfl

theorem parted_brackets (rest : List Char) : Parted ('[' :: ']' :: rest) := fun _ => rfl

/-- No word goes on at a bar with a blank before it. -/
theorem parted_bar (rest : List Char) : Parted (' ' :: '|' :: rest) := by
  intro letters
  have hafter : ∀ letters, tokensOnto letters (' ' :: '|' :: rest) =
      wordOf (' ' :: letters) ++ .bar :: tokensOnto [] rest := fun _ => rfl
  rw [hafter, hafter, wordOf_blank_last, wordOf_blank_last]
  rfl

/-- A text that has some tokens, whatever stands behind it that goes on with no word. -/
def Lexes (cs : List Char) (ts : List Token) : Prop :=
  ∀ rest, Parted rest → tokensOnto [] (cs ++ rest) = ts ++ tokensOnto [] rest

variable {cs ds : List Char}

theorem lexes_nil : Lexes [] [] := fun _ _ => rfl

/-- A word has itself as its only token. -/
theorem lexes_word {text : String} (h : isWord text = true) : Lexes text.toList [.word text] := by
  rw [isWord, Bool.and_eq_true, Bool.and_eq_true, List.all_eq_true] at h
  obtain ⟨⟨hletters, htrim⟩, hne⟩ := h
  intro rest hrest
  have hword : wordOf text.toList.reverse = [.word text] := by
    rw [wordOf, List.reverse_reverse, String.ofList_toList, beq_iff_eq.mp htrim]
    exact if_neg (by simpa using hne)
  rw [tokensOnto_letters (fun c hc => by simpa using hletters c hc), List.append_nil, hrest, hword]

/-- Brackets behind a text add their token. -/
theorem Lexes.array (h : Lexes cs ts) : Lexes (cs ++ ['[', ']']) (ts ++ [.brackets]) := by
  intro rest _
  rw [List.append_assoc, List.cons_append, List.singleton_append, h _ (parted_brackets rest),
    List.append_assoc]
  rfl

theorem Lexes.grouped (h : Lexes cs ts) :
    Lexes ('(' :: cs ++ [')']) (.opening :: ts ++ [.closing]) := by
  intro rest _
  have hopen : tokensOnto [] ('(' :: (cs ++ ')' :: rest)) =
      .opening :: tokensOnto [] (cs ++ ')' :: rest) := rfl
  rw [List.append_assoc, List.cons_append, List.singleton_append, hopen,
    h _ (parted_closing rest), List.append_assoc]
  rfl

/-- A bar with blanks between two texts parts their tokens. -/
theorem Lexes.union (h : Lexes cs ts) (h' : Lexes ds us) :
    Lexes (cs ++ (' ' :: '|' :: ' ' :: ds)) (ts ++ .bar :: us) := by
  intro rest hrest
  have hbar : tokensOnto [] (' ' :: '|' :: ' ' :: (ds ++ rest)) =
      .bar :: tokensOnto [' '] (ds ++ rest) := rfl
  rw [List.append_assoc, List.cons_append, List.cons_append, List.cons_append,
    h _ (parted_bar _), hbar, ← List.nil_append [' '], tokensOnto_blank, h' rest hrest,
    List.append_assoc, List.cons_append]

theorem Lexes.tokens (h : Lexes cs ts) : tokensOnto [] cs = ts := by
  have hnil := h [] parted_nil
  rw [List.append_nil] at hnil
  rw [hnil]
  exact List.append_nil ts

/-! ### Texts with their meanings -/

/-- A text reads as one operand of some meaning if all of it is told. If not, some name or
array of that meaning is not there. -/
def RendersOperand (told : Bool) (text : String) (ms : List TypeMember) : Prop :=
  ∃ ts, Lexes text.toList ts ∧ (told = true → Operand ts ms) ∧
    (told = false → ts.countP Token.weighs < TypeMember.weightAll ms)

/-- The same of texts with bars between them, which may be those of more members. -/
def Renders (told : Bool) (texts : List String) (ms : List TypeMember) : Prop :=
  ∃ ts, Lexes (" | ".intercalate texts).toList ts ∧ (told = true → texts ≠ [] ∧ Reads ts ms) ∧
    (told = false → ts.countP Token.weighs < TypeMember.weightAll ms)

variable {told told' : Bool} {text : String} {texts texts' : List String}

/-- One operand stands for its members without a bar. -/
theorem RendersOperand.renders (h : RendersOperand told text ms) : Renders told [text] ms := by
  obtain ⟨ts, hlex, hread, hweight⟩ := h
  refine ⟨ts, ?_, fun htold => ⟨List.cons_ne_nil _ _, (hread htold).reads⟩, hweight⟩
  rw [String.intercalate_singleton]
  exact hlex

/-- A word renders the name that it is, and all of it is told. -/
theorem rendersOperand_word (h : isWord text = true) : RendersOperand true text [.name text] :=
  ⟨[.word text], lexes_word h, fun _ => operand_word text, nofun⟩

/-- Brackets behind an operand render an array of it, and lose no more than was lost. -/
theorem RendersOperand.array (h : RendersOperand told text ms) :
    RendersOperand told (text ++ "[]") [.array ms] := by
  obtain ⟨ts, hlex, hread, hweight⟩ := h
  refine ⟨ts ++ [.brackets], ?_, fun htold => (hread htold).array, fun htold => ?_⟩
  · rw [String.toList_append]
    exact hlex.array
  · have hless := hweight htold
    rw [List.countP_append, TypeMember.weightAll, TypeMember.weight]
    exact Nat.add_lt_add_right hless 1

/-- Parentheses make one operand of texts with bars between them. -/
theorem Renders.grouped (h : Renders told texts ms) :
    RendersOperand told ("(" ++ " | ".intercalate texts ++ ")") ms := by
  obtain ⟨ts, hlex, hread, hweight⟩ := h
  refine ⟨.opening :: ts ++ [.closing], ?_, fun htold => (hread htold).2.grouped, fun htold => ?_⟩
  · rw [String.toList_append, String.toList_append]
    exact hlex.grouped
  · rw [List.countP_append, List.countP_cons]
    exact hweight htold

/-- No more is written than is meant. -/
theorem weight_le (hread : told = true → texts ≠ [] ∧ Reads ts ms)
    (hweight : told = false → ts.countP Token.weighs < TypeMember.weightAll ms) :
    ts.countP Token.weighs ≤ TypeMember.weightAll ms := by
  cases told with
  | true => exact Nat.le_of_eq (weight_readTokens? (hread rfl).2.readTokens?)
  | false => exact Nat.le_of_lt (hweight rfl)

/-- A text in which a part of the meaning is not there. -/
theorem Renders.missing (h : Renders told texts ms) {all : List TypeMember}
    (hall : TypeMember.weightAll ms < TypeMember.weightAll all) : Renders false texts all := by
  obtain ⟨ts, hlex, hread, hweight⟩ := h
  exact ⟨ts, hlex, nofun, fun _ => Nat.lt_of_le_of_lt (weight_le hread hweight) hall⟩

/-- Where there is no text, not all is told, and something was to be told. -/
theorem Renders.weight_pos (h : Renders told [] ms) :
    0 < TypeMember.weightAll ms ∧ told = false := by
  obtain ⟨ts, -, hread, hweight⟩ := h
  cases told with
  | true => exact absurd rfl (hread rfl).1
  | false => exact ⟨Nat.zero_lt_of_lt (hweight rfl), rfl⟩

/-- The members of two unions, one after the other. -/
theorem Renders.union (h : Renders told texts ms) (h' : Renders told' texts' ns) :
    Renders (told && told') (texts ++ texts') (ms ++ ns) := by
  have hsum := TypeMember.weightAll_append ms ns
  by_cases hempty : texts = []
  · -- nothing is written of the first one
    subst hempty
    obtain ⟨hpos, rfl⟩ := h.weight_pos
    exact h'.missing (by omega)
  by_cases hempty' : texts' = []
  · subst hempty'
    obtain ⟨hpos, rfl⟩ := h'.weight_pos
    rw [List.append_nil, Bool.and_false]
    exact h.missing (by omega)
  obtain ⟨ts, hlex, hread, hweight⟩ := h
  obtain ⟨us, hlex', hread', hweight'⟩ := h'
  have hle := weight_le hread hweight
  have hle' := weight_le hread' hweight'
  refine ⟨ts ++ .bar :: us, ?_, fun htold => ?_, fun htold => ?_⟩
  · rw [String.intercalate_append_of_ne_nil hempty hempty', String.toList_append,
      String.toList_append, List.append_assoc]
    exact hlex.union hlex'
  · rw [Bool.and_eq_true] at htold
    exact ⟨fun hnil => hempty (List.append_eq_nil_iff.mp hnil).1,
      (hread htold.1).2.union (hread' htold.2).2⟩
  · -- the bar weighs nothing, so what is missing on one side is missing in all
    have hcount : (ts ++ .bar :: us).countP Token.weighs =
        ts.countP Token.weighs + us.countP Token.weighs := List.countP_append
    rcases Bool.and_eq_false_iff.mp htold with hno | hno
    · have hless := hweight hno
      omega
    · have hless := hweight' hno
      omega

end TypeText

/-! ## What trees mean -/

namespace SyntaxTree

/-- Fixed texts around the types in a type. -/
def typeMarks : List String := ["|", "(", ")", "[", "]"]

/-- Whether a child of an array, a union or parentheses is a type: a node of a rule, or a
fixed text that is no mark. -/
def isType (t : SyntaxTree) : Bool := !t.isComment && (t.info.named || !typeMarks.contains t.kind)

/-- What a form means that is not told. -/
def unknownType : List TypeMember := [.name anyType]

mutual

/-- What the node of a type means. -/
def meaning (source : SourceText) (t : SyntaxTree) : List TypeMember :=
  match t with
  | node i cs =>
    if TypeExpr.names.contains i.kind then [.name (source.slice i.start i.stop)]
    else if i.kind = "generic_type" then
      ((cs.find? (isUnder "name")).map fun name => [.name (name.text source)]).getD unknownType
    else if i.kind = "array_type" then [.array (meaningIn source cs)]
    else if i.kind = "union_type" then meaningIn source cs
    else if i.kind = "parenthesized_type" then meaningIn source cs
    else if i.kind = "literal_type" then
      ((cs.find? (·.info.named)).map fun value =>
        if TypeExpr.literals.contains value.kind then [.name (value.text source)]
        else unknownType).getD unknownType
    else unknownType

/-- What the types among some children mean, one after the other. -/
def meaningIn (source : SourceText) (cs : List SyntaxTree) : List TypeMember :=
  match cs with
  | [] => []
  | c :: rest =>
    if !c.isType then meaningIn source rest
    else (if c.info.named then meaning source c else unknownType) ++ meaningIn source rest

end

mutual

/-- Whether the types in the arrays and unions of a type are nodes of rules. -/
def isTold (t : SyntaxTree) : Bool :=
  match t with
  | node i cs =>
    if i.kind = "array_type" ∨ i.kind = "union_type" then isToldIn true cs
    else if i.kind = "parenthesized_type" then isToldIn false cs
    else true

/-- Whether that is so of the types among some children, and they are nodes of rules
themselves where that is asked for. -/
def isToldIn (asked : Bool) (cs : List SyntaxTree) : Bool :=
  match cs with
  | [] => true
  | c :: rest => (!c.isType || if c.info.named then isTold c else !asked) && isToldIn asked rest

end

/-- Whether a node of a type is such as grammars have it. Names are words, there is one type
in an array or in parentheses and at least one in a union, a union under an array has
parentheses around it, and there are no comments. -/
def typeFits (source : SourceText) (n : SyntaxTree) : Bool :=
  let types := n.children.filter isType
  !n.isComment &&
  (!(TypeExpr.names ++ TypeExpr.literals).contains n.kind || TypeText.isWord (n.text source)) &&
  (n.kind != "generic_type" ||
    (n.child? "name").any fun name => TypeExpr.names.contains name.kind) &&
  (n.kind != "array_type" || types.length == 1 && types.all (·.kind != "union_type")) &&
  (n.kind != "parenthesized_type" || types.length == 1) &&
  (n.kind != "union_type" || !types.isEmpty)

/-! ### Children that are types -/

/-- What a type among the children of a type means. -/
def childMeaning (source : SourceText) (c : SyntaxTree) : List TypeMember :=
  if c.info.named then meaning source c else unknownType

/-- Whether a type among the children of a type is told. -/
def isToldChild (asked : Bool) (c : SyntaxTree) : Bool := if c.info.named then isTold c else !asked

/-- What children mean is what the types among them mean, one after the other. -/
theorem meaningIn_eq (source : SourceText) (cs : List SyntaxTree) :
    meaningIn source cs = (cs.filter isType).flatMap (childMeaning source) := by
  induction cs with
  | nil => rw [meaningIn]; rfl
  | cons c rest ih =>
    rw [meaningIn, List.filter_cons, ih]
    cases c.isType <;> rfl

/-- Whether children are told depends on the types among them. -/
theorem isToldIn_eq (asked : Bool) (cs : List SyntaxTree) :
    isToldIn asked cs = (cs.filter isType).all (isToldChild asked) := by
  induction cs with
  | nil => rw [isToldIn]; rfl
  | cons c rest ih =>
    rw [isToldIn, List.filter_cons, ih]
    cases c.isType <;> rfl

/-- Without comments the named children of a type are among its types. -/
theorem filter_named_eq {cs : List SyntaxTree} (h : ∀ c ∈ cs, c.isComment = false) :
    cs.filter (·.info.named) = (cs.filter isType).filter (·.info.named) := by
  rw [List.filter_filter]
  refine List.filter_congr fun c hc => ?_
  rw [isType, h c hc]
  cases c.info.named <;> rfl

/-- What a type means, by what it shows of itself and of its types. -/
theorem meaning_unfold (source : SourceText) (t : SyntaxTree) : meaning source t =
    if TypeExpr.names.contains t.kind then [.name (t.text source)]
    else if t.kind = "generic_type" then
      ((t.child? "name").map fun name => [.name (name.text source)]).getD unknownType
    else if t.kind = "array_type" then
      [.array ((t.children.filter isType).flatMap (childMeaning source))]
    else if t.kind = "union_type" then (t.children.filter isType).flatMap (childMeaning source)
    else if t.kind = "parenthesized_type" then
      (t.children.filter isType).flatMap (childMeaning source)
    else if t.kind = "literal_type" then
      (t.namedChildren.head?.map fun value =>
        if TypeExpr.literals.contains value.kind then [.name (value.text source)]
        else unknownType).getD unknownType
    else unknownType := by
  obtain ⟨i, cs⟩ := t
  rw [meaning, meaningIn_eq, namedChildren, List.head?_filter]
  rfl

/-- A type is told if the types in it are; those in an array or a union have to be nodes of rules,
and one in parentheses need not be. -/
theorem isTold_unfold (t : SyntaxTree) : isTold t =
    if t.kind = "array_type" ∨ t.kind = "union_type" then
      (t.children.filter isType).all (isToldChild true)
    else if t.kind = "parenthesized_type" then (t.children.filter isType).all (isToldChild false)
    else true := by
  obtain ⟨i, cs⟩ := t
  rw [isTold, isToldIn_eq, isToldIn_eq]
  rfl

end SyntaxTree

/-! ## Texts of trees -/

namespace TypeExpr

/-- The texts of members follow one another. -/
theorem renderAll_append (es fs : List TypeExpr) :
    renderAll (es ++ fs) = renderAll es ++ renderAll fs := by
  induction es with
  | nil => rw [renderAll]; rfl
  | cons e es ih => rw [List.cons_append, renderAll, renderAll, ih, List.cons_append]

/-- A type is written as its parts are, with bars between them. -/
theorem render_eq_intercalate (e : TypeExpr) :
    e.render = " | ".intercalate (renderAll e.parts) := by
  have halone : e.parts = [e] → e.render = " | ".intercalate (renderAll e.parts) := by
    intro h
    rw [h, renderAll, renderAll, String.intercalate_singleton]
  cases e with
  | union members => rw [render, parts]
  | named text => exact halone rfl
  | array element => exact halone rfl
  | group inner => exact halone rfl
  | other => exact halone rfl

/-- An array is written behind its element, without parentheses unless the element is a group. -/
theorem render_array {e : TypeExpr} (h : ∀ inner, e ≠ group inner) :
    (array e).render = e.render ++ "[]" := by
  rw [render]
  exact h

end TypeExpr

namespace SyntaxTree

open TypeText (Renders RendersOperand)

variable {source : SourceText} {t : SyntaxTree}

/-- What the condition on a node says, form by form. -/
theorem typeFits_spec (h : typeFits source t = true) :
    t.isComment = false ∧
    ((TypeExpr.names ++ TypeExpr.literals).contains t.kind = true →
      TypeText.isWord (t.text source) = true) ∧
    (t.kind = "generic_type" →
      ∃ name, t.child? "name" = some name ∧ TypeExpr.names.contains name.kind = true) ∧
    (t.kind = "array_type" → ∃ c, t.children.filter isType = [c] ∧ c.kind ≠ "union_type") ∧
    (t.kind = "parenthesized_type" → ∃ c, t.children.filter isType = [c]) ∧
    (t.kind = "union_type" → t.children.filter isType ≠ []) := by
  unfold typeFits at h
  simp only [Bool.and_eq_true] at h
  obtain ⟨⟨⟨⟨⟨hcomment, hword⟩, hgeneric⟩, harray⟩, hgroup⟩, hunion⟩ := h
  refine ⟨by simpa using hcomment, fun hkind => ?_, fun hkind => ?_, fun hkind => ?_,
    fun hkind => ?_, fun hkind => ?_⟩
  · rw [hkind] at hword
    exact hword
  · rw [hkind] at hgeneric
    exact (Option.any_eq_true _ _).mp hgeneric
  · rw [hkind] at harray
    obtain ⟨hlength, hnot⟩ := Bool.and_eq_true_iff.mp harray
    obtain ⟨c, hc⟩ := List.length_eq_one_iff.mp (beq_iff_eq.mp hlength)
    rw [hc, List.all_cons, Bool.and_eq_true] at hnot
    exact ⟨c, hc, bne_iff_ne.mp hnot.1⟩
  · rw [hkind] at hgroup
    exact List.length_eq_one_iff.mp (beq_iff_eq.mp hgroup)
  · rw [hkind] at hunion
    simpa using hunion

/-- The kinds of types that are put together from others. -/
def composed : List String := ["array_type", "union_type", "parenthesized_type"]

theorem rendersOperand_unknown : RendersOperand true anyType unknownType :=
  TypeText.rendersOperand_word (by decide)

/-- A type that is not put together from others is a word. -/
theorem rendersOperand_word (hfit : ∀ n ∈ t.nodes, typeFits source n = true)
    (hkind : composed.contains t.kind = false) :
    RendersOperand (isTold t) (TypeExpr.ofTree source t).render (meaning source t) := by
  have hword : ∀ n ∈ t.nodes, (TypeExpr.names ++ TypeExpr.literals).contains n.kind = true →
      RendersOperand true (n.text source) [.name (n.text source)] := fun n hn hname =>
    TypeText.rendersOperand_word ((typeFits_spec (hfit n hn)).2.1 hname)
  have hnone : ∀ kind ∈ composed, t.kind ≠ kind := by
    rintro kind hmem rfl
    exact Bool.false_ne_true (hkind.symm.trans (List.contains_iff_mem.mpr hmem))
  have harray := hnone "array_type" (by decide)
  have hunion := hnone "union_type" (by decide)
  have hgroup := hnone "parenthesized_type" (by decide)
  rw [isTold_unfold, if_neg (not_or.mpr ⟨harray, hunion⟩), if_neg hgroup,
    TypeExpr.ofTree_unfold, meaning_unfold]
  -- text and meaning branch alike, so both sides are taken through the cases at once
  by_cases hname : TypeExpr.names.contains t.kind = true
  · rw [if_pos hname, if_pos hname, TypeExpr.render]
    refine hword t (self_mem_nodes t) ?_
    rw [List.contains_iff_mem] at hname ⊢
    exact List.mem_append_left _ hname
  rw [if_neg hname, if_neg hname]
  by_cases hgeneric : t.kind = "generic_type"
  · obtain ⟨name, hchild, hnamed⟩ := (typeFits_spec (hfit t (self_mem_nodes t))).2.2.1 hgeneric
    rw [if_pos hgeneric, if_pos hgeneric, hchild]
    refine hword name (nodes_subset (child?_mem hchild) (self_mem_nodes name)) ?_
    rw [List.contains_iff_mem] at hnamed ⊢
    exact List.mem_append_left _ hnamed
  rw [if_neg hgeneric, if_neg hgeneric, if_neg harray, if_neg harray, if_neg hunion,
    if_neg hunion, if_neg hgroup, if_neg hgroup]
  by_cases hliteral : t.kind = "literal_type"
  · rw [if_pos hliteral, if_pos hliteral]
    cases hvalue : t.namedChildren.head? with
    | none => exact rendersOperand_unknown
    | some value =>
      have hmem : value ∈ t.children := List.mem_of_mem_filter (List.mem_of_head? hvalue)
      rw [Option.map_some, Option.map_some, Option.getD_some, Option.getD_some]
      by_cases htold : TypeExpr.literals.contains value.kind = true
      · rw [if_pos htold, if_pos htold, TypeExpr.render]
        refine hword value (nodes_subset hmem (self_mem_nodes value)) ?_
        rw [List.contains_iff_mem] at htold ⊢
        exact List.mem_append_right _ htold
      · rw [if_neg htold, if_neg htold]
        exact rendersOperand_unknown
  · rw [if_neg hliteral, if_neg hliteral]
    exact rendersOperand_unknown

/-- What is written of some types with bars between them. -/
theorem renders_types {ts : List SyntaxTree} (hne : ts ≠ []) (h : ∀ c ∈ ts,
      Renders (isTold c) (TypeExpr.renderAll (TypeExpr.ofTree source c).parts) (meaning source c)) :
    Renders (ts.all (isToldChild true))
      (TypeExpr.renderAll ((ts.filter (·.info.named)).flatMap fun c =>
        (TypeExpr.ofTree source c).parts))
      (ts.flatMap (childMeaning source)) := by
  -- a node of a rule is written with its parts, a fixed text is lost
  have hone : ∀ c ∈ ts, Renders (isToldChild true c)
      (TypeExpr.renderAll (([c].filter (·.info.named)).flatMap fun c =>
        (TypeExpr.ofTree source c).parts)) (childMeaning source c) := by
    intro c hc
    rw [List.filter_singleton, isToldChild, childMeaning]
    cases c.info.named with
    | true =>
      have hparts := h c hc
      rw [← List.append_nil (TypeExpr.ofTree source c).parts] at hparts
      exact hparts
    | false =>
      exact ⟨[], TypeText.lexes_nil, nofun, fun _ => show 0 < TypeMember.weightAll unknownType by
        decide⟩
  induction ts with
  | nil => exact absurd rfl hne
  | cons c rest ih =>
    have hfirst := hone c (List.mem_cons_self ..)
    cases rest with
    | nil =>
      rw [List.all_cons, List.all_nil, Bool.and_true, List.flatMap_singleton]
      exact hfirst
    | cons d rest =>
      have hlater := ih (List.cons_ne_nil d rest) (fun c hc => h c (List.mem_cons_of_mem _ hc))
        fun c hc => hone c (List.mem_cons_of_mem _ hc)
      have htogether := hfirst.union hlater
      rw [← TypeExpr.renderAll_append, ← List.flatMap_append, ← List.filter_append] at htogether
      exact htogether

/-- The text of one type alone is that of its parts. -/
theorem renders_single {e : TypeExpr} {told : Bool} {ms : List TypeMember}
    (h : Renders told (TypeExpr.renderAll e.parts) ms) : Renders told [e.render] ms := by
  obtain ⟨ts, hlex, hread, hweight⟩ := h
  refine ⟨ts, ?_, fun htold => ⟨List.cons_ne_nil _ _, (hread htold).2⟩, hweight⟩
  rw [String.intercalate_singleton, TypeExpr.render_eq_intercalate]
  exact hlex

/-- What is around one type, where there are no comments. -/
theorem namedChildren_of_single {c : SyntaxTree} (hcomments : ∀ d ∈ t.children, d.isComment = false)
    (hc : t.children.filter isType = [c]) :
    t.namedChildren.head? = if c.info.named then some c else none := by
  rw [namedChildren, filter_named_eq hcomments, hc, List.filter_singleton]
  cases c.info.named <;> rfl

/-- Only what is in parentheses is read as a group. -/
theorem ofTree_ne_group (source : SourceText) (hkind : t.kind ≠ "parenthesized_type")
    (inner : TypeExpr) : TypeExpr.ofTree source t ≠ .group inner := by
  intro h
  rw [TypeExpr.ofTree_unfold, if_neg hkind] at h
  cases hname : t.child? "name" <;> cases hfirst : t.namedChildren.head? <;>
    simp only [hname, hfirst, Option.map_some, Option.map_none, Option.getD_some,
      Option.getD_none] at h <;>
    split_ifs at h

theorem rendersOperand_array {c : SyntaxTree} (hkind : t.kind = "array_type")
    (hcomments : ∀ d ∈ t.children, d.isComment = false) (hc : t.children.filter isType = [c])
    (h : Renders (isTold c) (TypeExpr.renderAll (TypeExpr.ofTree source c).parts)
      (meaning source c))
    (h' : c.kind ≠ "parenthesized_type" →
      RendersOperand (isTold c) (TypeExpr.ofTree source c).render (meaning source c)) :
    RendersOperand (isTold t) (TypeExpr.ofTree source t).render (meaning source t) := by
  have htold : isTold t = isToldChild true c := by
    rw [isTold_unfold, if_pos (.inl hkind), hc, List.all_cons, List.all_nil, Bool.and_true]
  have hmeaning : meaning source t = [.array (childMeaning source c)] := by
    rw [meaning_unfold, hkind, hc, List.flatMap_singleton]
    rfl
  have htree : TypeExpr.ofTree source t =
      ((t.namedChildren.head?.map (TypeExpr.ofTree source)).map .array).getD .other := by
    rw [TypeExpr.ofTree_unfold, hkind]
    rfl
  rw [htold, hmeaning, htree, namedChildren_of_single hcomments hc, isToldChild, childMeaning]
  cases c.info.named with
  | true =>
    show RendersOperand (isTold c) (TypeExpr.array (TypeExpr.ofTree source c)).render
      [.array (meaning source c)]
    by_cases hgroup : c.kind = "parenthesized_type"
    · -- the parentheses are written, so that the brackets belong to all that is in them
      have hinner : ∃ inner, TypeExpr.ofTree source c = .group inner := by
        rw [TypeExpr.ofTree_unfold, hgroup]
        exact ⟨_, rfl⟩
      obtain ⟨inner, hinner⟩ := hinner
      have hgrouped := (renders_single h).grouped.array
      rw [String.intercalate_singleton, hinner, TypeExpr.render, String.append_assoc] at hgrouped
      rw [hinner, TypeExpr.render]
      exact hgrouped
    · rw [TypeExpr.render_array (ofTree_ne_group source hgroup)]
      exact (h' hgroup).array
  | false =>
    -- an element that is a fixed text is lost: it is written as `any`, which is less than was meant
    have hword : TypeText.Lexes anyType.toList [.word anyType] :=
      TypeText.lexes_word (by decide)
    have hless : [TypeText.Token.word anyType].countP TypeText.Token.weighs <
        TypeMember.weightAll [.array unknownType] := by
      decide
    exact ⟨_, hword, nofun, fun _ => hless⟩

/-- A type in parentheses. -/
theorem renders_group {c : SyntaxTree} (hkind : t.kind = "parenthesized_type")
    (hcomments : ∀ d ∈ t.children, d.isComment = false) (hc : t.children.filter isType = [c])
    (h : Renders (isTold c) (TypeExpr.renderAll (TypeExpr.ofTree source c).parts)
      (meaning source c)) :
    Renders (isTold t) [(TypeExpr.ofTree source t).render] (meaning source t) := by
  have htold : isTold t = isToldChild false c := by
    rw [isTold_unfold, hkind, if_neg (by decide), if_pos rfl, hc, List.all_cons, List.all_nil,
      Bool.and_true]
  have hmeaning : meaning source t = childMeaning source c := by
    rw [meaning_unfold, hkind, hc, List.flatMap_singleton]
    rfl
  have htree : TypeExpr.ofTree source t =
      .group ((t.namedChildren.head?.map (TypeExpr.ofTree source)).getD .other) := by
    rw [TypeExpr.ofTree_unfold, hkind]
    rfl
  rw [htold, hmeaning, htree, namedChildren_of_single hcomments hc, isToldChild, childMeaning,
    TypeExpr.render]
  cases c.info.named with
  | true => exact renders_single h
  | false => exact rendersOperand_unknown.renders

/-- **The text of a type and its meaning**: they agree if all is told, and else something is
not there. -/
theorem renders (t : SyntaxTree) : (∀ n ∈ t.nodes, typeFits source n = true) →
    Renders (isTold t) (TypeExpr.renderAll (TypeExpr.ofTree source t).parts) (meaning source t) ∧
    (t.kind ≠ "union_type" → t.kind ≠ "parenthesized_type" →
      RendersOperand (isTold t) (TypeExpr.ofTree source t).render (meaning source t)) := by
  induction t using SyntaxTree.childInduction with
  | step t ih =>
    intro hfit
    have hchild := fun (c : SyntaxTree) (hc : c ∈ t.children) =>
      ih c hc fun n hn => hfit n (nodes_subset hc hn)
    have hcomments : ∀ c ∈ t.children, c.isComment = false := fun c hc =>
      (typeFits_spec (hfit c (nodes_subset hc (self_mem_nodes c)))).1
    obtain ⟨-, -, -, harray, hgroup, hunion⟩ := typeFits_spec (hfit t (self_mem_nodes t))
    -- what is no union is its own only part
    have halone : t.kind ≠ "union_type" →
        Renders (isTold t) [(TypeExpr.ofTree source t).render] (meaning source t) →
        Renders (isTold t) (TypeExpr.renderAll (TypeExpr.ofTree source t).parts)
          (meaning source t) := by
      intro hkind h
      rw [TypeExpr.parts_of_not_union hkind, TypeExpr.renderAll, TypeExpr.renderAll]
      exact h
    by_cases hkind : t.kind = "union_type"
    · refine ⟨?_, fun hnot => absurd hkind hnot⟩
      have hmeaning : meaning source t =
          (t.children.filter isType).flatMap (childMeaning source) := by
        rw [meaning_unfold, hkind]
        rfl
      rw [isTold_unfold, if_pos (.inr hkind), TypeExpr.parts_of_union hkind,
        TypeExpr.membersIn_eq, filter_named_eq hcomments, hmeaning]
      exact renders_types (hunion hkind) fun c hc => (hchild c (List.mem_of_mem_filter hc)).1
    by_cases hkind' : t.kind = "parenthesized_type"
    · obtain ⟨c, hc⟩ := hgroup hkind'
      have hmem : c ∈ t.children := List.mem_of_mem_filter (hc ▸ List.mem_singleton_self c)
      exact ⟨halone hkind (renders_group hkind' hcomments hc (hchild c hmem).1),
        fun _ hnot => absurd hkind' hnot⟩
    have hoperand : RendersOperand (isTold t) (TypeExpr.ofTree source t).render
        (meaning source t) := by
      by_cases hkind'' : t.kind = "array_type"
      · obtain ⟨c, hc, hnot⟩ := harray hkind''
        have hmem : c ∈ t.children := List.mem_of_mem_filter (hc ▸ List.mem_singleton_self c)
        exact rendersOperand_array hkind'' hcomments hc (hchild c hmem).1
          ((hchild c hmem).2 hnot)
      · refine rendersOperand_word hfit (Bool.eq_false_iff.mpr fun hcomposed => ?_)
        simp [composed, hkind, hkind', hkind''] at hcomposed
    exact ⟨halone hkind hoperand.renders, fun _ _ => hoperand⟩

end SyntaxTree

namespace TypeExpr

open SyntaxTree

/-- **Texts of types are read back.** The text of a type means what the type means just if
the types in its arrays and unions are nodes of rules. -/
theorem read?_render_iff {source : SourceText} {t : SyntaxTree}
    (hfit : ∀ n ∈ t.nodes, typeFits source n = true) :
    TypeText.read? (ofTree source t).render = some (meaning source t) ↔ isTold t = true := by
  obtain ⟨ts, hlex, hread, hweight⟩ := (SyntaxTree.renders t hfit).1
  rw [TypeText.read?, render_eq_intercalate, hlex.tokens]
  constructor
  · intro h
    cases htold : isTold t with
    | true => rfl
    | false =>
      have hless := hweight htold
      rw [TypeText.weight_readTokens? h] at hless
      exact absurd hless (Nat.lt_irrefl _)
  · exact fun htold => (hread htold).2.readTokens?

/-- The tree of `(A|B)[]|M<C>|{}|null`. -/
def mixedUnion : SyntaxTree :=
  .onLine "union_type" none 0 20 [
    .onLine "union_type" none 0 15 [
      .onLine "union_type" none 0 12 [
        .onLine "array_type" none 0 7 [
          .onLine "parenthesized_type" none 0 5 [
            .fixed "(" 0 1,
            .onLine "union_type" none 1 4 [
              .onLine "type_identifier" none 1 2 [],
              .fixed "|" 2 3,
              .onLine "type_identifier" none 3 4 []],
            .fixed ")" 4 5],
          .fixed "[" 5 6,
          .fixed "]" 6 7],
        .fixed "|" 7 8,
        .onLine "generic_type" none 8 12 [
          .onLine "type_identifier" (some "name") 8 9 [],
          .onLine "type_arguments" (some "type_arguments") 9 12 [
            .fixed "<" 9 10,
            .onLine "type_identifier" none 10 11 [],
            .fixed ">" 11 12]]],
      .fixed "|" 12 13,
      .onLine "object_type" none 13 15 [
        .fixed "\x7b" 13 14,
        .fixed "\x7d" 14 15]],
    .fixed "|" 15 16,
    .onLine "literal_type" none 16 20 [
      .onLine "null" none 16 20 []]]

/-- All of it is told, and so its text means four members in their order. -/
theorem read?_render_iff_mixedUnion :
    let source := SourceText.ofString "(A|B)[]|M<C>|\x7b\x7d|null"
    (∀ n ∈ mixedUnion.nodes, typeFits source n = true) ∧ isTold mixedUnion = true ∧
      TypeText.read? (ofTree source mixedUnion).render =
        some [.array [.name "A", .name "B"], .name "M", .name "any", .name "null"] := by
  intro source
  have hfit : ∀ n ∈ mixedUnion.nodes, typeFits source n = true := by decide
  have htold : isTold mixedUnion = true := by decide
  have hmeaning : meaning source mixedUnion =
      [.array [.name "A", .name "B"], .name "M", .name "any", .name "null"] := by
    decide
  exact ⟨hfit, htold, hmeaning ▸ (read?_render_iff hfit).mpr htold⟩

/-- The tree of `A|const`, where the second member is a fixed text. -/
def fixedMember : SyntaxTree :=
  .onLine "union_type" none 0 7 [
    .onLine "type_identifier" none 0 1 [],
    .fixed "|" 1 2,
    .fixed "const" 2 7]

/-- Not every text of a type means what the type means: a member that is a fixed text is not
written. -/
theorem member_lost : ¬ ∀ (source : SourceText) (t : SyntaxTree),
    (∀ n ∈ t.nodes, typeFits source n = true) →
    TypeText.read? (ofTree source t).render = some (meaning source t) := by
  intro h
  have hread := h (.ofString "A|const") fixedMember (by decide)
  revert hread
  decide +kernel

end TypeExpr

end CallAtlas
