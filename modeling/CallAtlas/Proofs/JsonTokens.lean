import CallAtlas.Json.Reader
import CallAtlas.Json.Writer
import Mathlib.Data.List.TakeWhile

/-!
# Tokens of JSON texts

What is read back of one string or one number, whatever stands behind it. A string ends
with a mark of its own. A number does not, so what stands behind it must be no part of a
number (`Json.Stops`).

That the text of a float reads back as that float rests on how floats are rounded. It is
not proved here: `Json.ReadsBack` says it of one float, and the rest is derived from that.
-/

namespace CallAtlas

namespace Json

/-! ## Strings -/

/-- A string as it is written. -/
def quoted (s : String) : List Char := '"' :: (s.toList.flatMap escaped ++ ['"'])

/-- A string is written quoted behind what is there. -/
theorem pushQuoted_toList (out s : String) :
    (pushQuoted out s).toList = out.toList ++ quoted s := by
  have hpush : ∀ (cs : List Char) (out : String),
      (cs.foldl String.push out).toList = out.toList ++ cs := by
    intro cs
    induction cs with
    | nil => intro out; exact (List.append_nil _).symm
    | cons c cs ih =>
      intro out
      rw [List.foldl_cons, ih, String.toList_push, List.append_assoc]
      rfl
  have hbody : ∀ (cs : List Char) (out : String),
      (cs.foldl (fun out c => (escaped c).foldl String.push out) out).toList =
        out.toList ++ cs.flatMap escaped := by
    intro cs
    induction cs with
    | nil => intro out; exact (List.append_nil _).symm
    | cons c cs ih =>
      intro out
      rw [List.foldl_cons, ih, hpush, List.append_assoc]
      rfl
  rw [pushQuoted, String.foldl_eq_foldl_toList, String.toList_push, hbody, String.toList_push,
    quoted, List.append_assoc, List.append_assoc]
  rfl

/-- A hexadecimal digit is read back. -/
theorem hexValue?_hexDigit {n : Nat} (h : n < 16) : hexValue? (hexDigit n) = some n := by
  revert n
  decide

/-- A control character is read back from its number. -/
theorem unicodeEscape?_control {c : Char} (h : c.toNat < 0x20) (rest : List Char) :
    unicodeEscape? ('0' :: '0' :: hexDigit (c.toNat / 16) :: hexDigit (c.toNat % 16) :: rest) =
      some (c, rest) := by
  have hzero : hexValue? '0' = some 0 := by decide
  have hhigh := hexValue?_hexDigit (show c.toNat / 16 < 16 by omega)
  have hlow := hexValue?_hexDigit (show c.toNat % 16 < 16 by omega)
  have hnumber : 0 * 4096 + 0 * 256 + c.toNat / 16 * 16 + c.toNat % 16 = c.toNat := by omega
  have hhex : hex4? ('0' :: '0' :: hexDigit (c.toNat / 16) :: hexDigit (c.toNat % 16) :: rest) =
      some (c.toNat, rest) := by
    simp only [hex4?, hzero, hhigh, hlow, Option.bind_eq_bind, Option.bind_some, hnumber]
    rfl
  have hpair : ¬ 0xD800 ≤ c.toNat := by omega
  have hsecond : ¬ 0xDC00 ≤ c.toNat := by omega
  rw [unicodeEscape?, hhex]
  simp [hpair, hsecond, Char.ofNat_toNat]

/-- A character is written with an escape of its own, by its number, or as it is. -/
theorem escaped_cases (c : Char) :
    (∃ e, escaped c = ['\\', e] ∧ simpleEscape? e = some c) ∨
    (escaped c = ['\\', 'u', '0', '0', hexDigit (c.toNat / 16), hexDigit (c.toNat % 16)] ∧
      c.toNat < 0x20) ∨
    (escaped c = [c] ∧ c ≠ '"' ∧ c ≠ '\\' ∧ ¬ c.toNat < 0x20) := by
  have hletter : ∀ e d : Char, escaped d = ['\\', e] → simpleEscape? e = some d →
      ∃ e, escaped d = ['\\', e] ∧ simpleEscape? e = some d :=
    fun e _ h he => ⟨e, h, he⟩
  by_cases hquote : c = '"'
  · exact .inl (hquote ▸ hletter '"' '"' (by decide) (by decide))
  by_cases hslash : c = '\\'
  · exact .inl (hslash ▸ hletter '\\' '\\' (by decide) (by decide))
  by_cases hline : c = '\n'
  · exact .inl (hline ▸ hletter 'n' '\n' (by decide) (by decide))
  by_cases hreturn : c = '\r'
  · exact .inl (hreturn ▸ hletter 'r' '\r' (by decide) (by decide))
  by_cases htab : c = '\t'
  · exact .inl (htab ▸ hletter 't' '\t' (by decide) (by decide))
  by_cases hback : c = '\x08'
  · exact .inl (hback ▸ hletter 'b' '\x08' (by decide) (by decide))
  by_cases hfeed : c = '\x0c'
  · exact .inl (hfeed ▸ hletter 'f' '\x0c' (by decide) (by decide))
  by_cases hcontrol : c.toNat < 0x20
  · exact .inr (.inl ⟨by simp [escaped, *], hcontrol⟩)
  · exact .inr (.inr ⟨by simp [escaped, *], hquote, hslash, hcontrol⟩)

/-- One character is read back. -/
theorem stringOnto_escaped (out : String) (fuel : Nat) (c : Char) (cs : List Char) :
    stringOnto out (fuel + 1) (escaped c ++ cs) = stringOnto (out.push c) fuel cs := by
  rcases escaped_cases c with
    ⟨e, htext, he⟩ | ⟨htext, hcontrol⟩ | ⟨htext, hquote, hslash, hplain⟩
  · have hu : e ≠ 'u' := by
      rintro rfl
      have hnone : simpleEscape? 'u' = none := by decide
      cases hnone.symm.trans he
    rw [htext]
    simp [stringOnto, he]
  · rw [htext]
    simp [stringOnto, unicodeEscape?_control hcontrol]
  · rw [htext]
    simp [stringOnto, hquote, hslash, hplain]

/-- A quoted text is read back up to its closing mark. The induction is on its characters, with
one step of fuel for each. -/
theorem stringOnto_text (s : List Char) : ∀ (out : String) (fuel : Nat) (rest : List Char),
    s.length < fuel →
    stringOnto out fuel (s.flatMap escaped ++ '"' :: rest) =
      some (out ++ String.ofList s, rest) := by
  induction s with
  | nil =>
    intro out fuel rest hfuel
    obtain ⟨fuel, rfl⟩ := Nat.exists_eq_succ_of_ne_zero (Nat.ne_of_gt hfuel)
    simp [stringOnto]
  | cons c s ih =>
    intro out fuel rest hfuel
    obtain ⟨fuel, rfl⟩ := Nat.exists_eq_succ_of_ne_zero (Nat.ne_of_gt (Nat.zero_lt_of_lt hfuel))
    rw [List.flatMap_cons, List.append_assoc, stringOnto_escaped,
      ih _ _ _ (Nat.lt_of_succ_lt_succ hfuel)]
    simp [← String.toList_inj]

/-! ## Parts of numbers -/

/-- No part of a number stands at the front. -/
def Stops (cs : List Char) : Prop :=
  ∀ c ∈ cs.head?, c.isDigit = false ∧ c ≠ '.' ∧ c ≠ 'e' ∧ c ≠ 'E'

/-- The whole part of a number and what is left. -/
def wholePart (c : Char) (cs : List Char) : Nat × List Char :=
  if c = '0' then (0, cs) else digitsOnto 0 (c :: cs)

/-- The digits with those behind the point, how many these are, what is left, and whether
there is a point. -/
def pointPart (whole : Nat) : List Char → Nat × Nat × List Char × Bool
  | '.' :: rest =>
    let (digits, count, rest) := fractionOnto whole 0 rest
    (digits, count, rest, true)
  | rest => (whole, 0, rest, false)

/-- The digits of an exponent. -/
def exponentDigits? (negative : Bool) : List Char → Option (Int × List Char)
  | c :: cs =>
    if c.isDigit then
      let (n, rest) := digitsOnto 0 (c :: cs)
      some (if negative then -(n : Int) else n, rest)
    else none
  | [] => none

/-- An exponent is read as a sign and digits. -/
theorem exponent?_cons (c : Char) (cs : List Char) :
    exponent? (c :: cs) =
      if c = '-' then exponentDigits? true cs
      else if c = '+' then exponentDigits? false cs
      else exponentDigits? false (c :: cs) := by
  by_cases hminus : c = '-'
  · subst hminus
    cases cs <;> rfl
  · by_cases hplus : c = '+'
    · subst hplus
      cases cs <;> rfl
    · simp [exponent?, exponentDigits?, hminus, hplus]

/-- The number with its exponent, if there is one. -/
def exponentPart (negative : Bool) (whole digits count : Nat) (pointed : Bool) :
    List Char → Option (Json Float × List Char)
  | e :: rest =>
    if e = 'e' || e = 'E' then do
      let (exponent, rest) ← exponent? rest
      return (.real (Decimal.toFloat ⟨negative, digits, exponent - count⟩), rest)
    else if pointed then
      some (.real (Decimal.toFloat ⟨negative, digits, -(count : Int)⟩), e :: rest)
    else some (ofWhole negative whole, e :: rest)
  | [] =>
    if pointed then some (.real (Decimal.toFloat ⟨negative, digits, -(count : Int)⟩), [])
    else some (ofWhole negative whole, [])

/-- A number is read part by part. -/
theorem number?_cons (negative : Bool) (c : Char) (cs : List Char) :
    number? negative (c :: cs) =
      if !c.isDigit then none
      else
        let (whole, rest) := wholePart c cs
        let (digits, count, rest, pointed) := pointPart whole rest
        if pointed && count = 0 then none
        else exponentPart negative whole digits count pointed rest := rfl

section Behind

variable {rest : List Char} (hrest : Stops rest)

include hrest

/-- Digits end where no digit stands at the front. For this and the parts of a number below, what
is left is left before whatever stands behind. -/
theorem digitsOnto_append (cs : List Char) : ∀ n : Nat,
    digitsOnto n (cs ++ rest) = ((digitsOnto n cs).1, (digitsOnto n cs).2 ++ rest) := by
  induction cs with
  | nil =>
    intro n
    cases rest with
    | nil => rfl
    | cons c rest => simp [digitsOnto, (hrest c rfl).1]
  | cons c cs ih =>
    intro n
    rw [List.cons_append, digitsOnto, digitsOnto]
    split
    · exact ih _
    · rfl

theorem fractionOnto_append (cs : List Char) : ∀ n count : Nat,
    fractionOnto n count (cs ++ rest) = ((fractionOnto n count cs).1,
      (fractionOnto n count cs).2.1, (fractionOnto n count cs).2.2 ++ rest) := by
  induction cs with
  | nil =>
    intro n count
    cases rest with
    | nil => rfl
    | cons c rest => simp [fractionOnto, (hrest c rfl).1]
  | cons c cs ih =>
    intro n count
    rw [List.cons_append, fractionOnto, fractionOnto]
    split
    · exact ih _ _
    · rfl

theorem exponentDigits?_append {negative : Bool} {cs left : List Char} {e : Int}
    (h : exponentDigits? negative cs = some (e, left)) :
    exponentDigits? negative (cs ++ rest) = some (e, left ++ rest) := by
  cases cs with
  | nil => cases h
  | cons c cs =>
    rw [exponentDigits?] at h
    rw [List.cons_append, exponentDigits?, ← List.cons_append, digitsOnto_append hrest]
    split at h
    · next hdigit =>
      rw [if_pos hdigit]
      generalize digitsOnto 0 (c :: cs) = read at h ⊢
      obtain ⟨rfl, rfl⟩ := Prod.mk.inj (Option.some.inj h)
      rfl
    · cases h

theorem exponent?_append {cs left : List Char} {e : Int} (h : exponent? cs = some (e, left)) :
    exponent? (cs ++ rest) = some (e, left ++ rest) := by
  cases cs with
  | nil => cases h
  | cons c cs =>
    rw [exponent?_cons] at h
    rw [List.cons_append, exponent?_cons]
    split at h
    · next hminus =>
      rw [if_pos hminus]
      exact exponentDigits?_append hrest h
    · next hminus =>
      rw [if_neg hminus]
      split at h
      · next hplus =>
        rw [if_pos hplus]
        exact exponentDigits?_append hrest h
      · next hplus =>
        rw [if_neg hplus]
        exact exponentDigits?_append hrest h

theorem wholePart_append (c : Char) (cs : List Char) :
    wholePart c (cs ++ rest) = ((wholePart c cs).1, (wholePart c cs).2 ++ rest) := by
  unfold wholePart
  split
  · rfl
  · exact digitsOnto_append hrest (c :: cs) 0

theorem pointPart_append (whole : Nat) (cs : List Char) :
    pointPart whole (cs ++ rest) = ((pointPart whole cs).1, (pointPart whole cs).2.1,
      (pointPart whole cs).2.2.1 ++ rest, (pointPart whole cs).2.2.2) := by
  cases cs with
  | nil =>
    cases rest with
    | nil => rfl
    | cons c rest =>
      have hpoint := (hrest c rfl).2.1
      simp [pointPart, hpoint]
  | cons c cs =>
    by_cases hpoint : c = '.'
    · subst hpoint
      simp [pointPart, fractionOnto_append hrest]
    · simp [pointPart, hpoint]

theorem exponentPart_append {negative pointed : Bool} {whole digits count : Nat}
    {cs left : List Char} {v : Json Float}
    (h : exponentPart negative whole digits count pointed cs = some (v, left)) :
    exponentPart negative whole digits count pointed (cs ++ rest) = some (v, left ++ rest) := by
  cases cs with
  | nil =>
    cases rest with
    | nil => simpa using h
    | cons c rest =>
      -- nothing is left to read, and what stands behind begins no exponent
      obtain ⟨-, -, he, hE⟩ := hrest c rfl
      cases pointed with
      | true =>
        obtain ⟨rfl, rfl⟩ := Prod.mk.inj (Option.some.inj h)
        simp [exponentPart, he, hE]
      | false =>
        obtain ⟨rfl, rfl⟩ := Prod.mk.inj (Option.some.inj h)
        simp [exponentPart, he, hE]
  | cons c cs =>
    rw [exponentPart] at h
    rw [List.cons_append, exponentPart]
    split at h
    · next he =>
      obtain ⟨⟨e, tail⟩, hexponent, hvalue⟩ := Option.bind_eq_some_iff.mp h
      obtain ⟨rfl, rfl⟩ := Prod.mk.inj (Option.some.inj hvalue)
      rw [if_pos he, exponent?_append hrest hexponent]
      rfl
    · next he =>
      rw [if_neg he]
      split at h
      · next hpointed =>
        obtain ⟨rfl, rfl⟩ := Prod.mk.inj (Option.some.inj h)
        rw [if_pos hpointed]
        rfl
      · next hpointed =>
        obtain ⟨rfl, rfl⟩ := Prod.mk.inj (Option.some.inj h)
        rw [if_neg hpointed]
        rfl

/-- A number is read in the same way with something behind it that is no part of it. -/
theorem number?_append {negative : Bool} {cs left : List Char} {v : Json Float}
    (h : number? negative cs = some (v, left)) :
    number? negative (cs ++ rest) = some (v, left ++ rest) := by
  cases cs with
  | nil => cases h
  | cons c cs =>
    rw [number?_cons] at h
    rw [List.cons_append, number?_cons, wholePart_append hrest]
    dsimp only at h ⊢
    rw [pointPart_append hrest]
    dsimp only
    split at h
    · cases h
    · next hdigit =>
      rw [if_neg hdigit]
      split at h
      · cases h
      · next hcount =>
        rw [if_neg hcount]
        exact exponentPart_append hrest h

end Behind

/-- Only what begins with a digit is read as a number. -/
theorem head_of_number? {negative : Bool} {cs left : List Char} {v : Json Float}
    (h : number? negative cs = some (v, left)) : ∃ c ds, cs = c :: ds ∧ c.isDigit = true := by
  cases cs with
  | nil => cases h
  | cons c cs =>
    rw [number?_cons] at h
    cases hc : c.isDigit with
    | true => exact ⟨c, cs, rfl, hc⟩
    | false =>
      rw [hc] at h
      cases h

/-! ## Whole numbers -/

/-- Whole numbers that are no floats when they are read. -/
def InRange (n : Int) : Prop := -(Number.wordBound 63 : Int) ≤ n ∧ n < Number.wordBound 64

/-- Digits are read as the number that they write. -/
theorem digitsOnto_digits {ds : List Char} (hds : ∀ c ∈ ds, c.isDigit = true) : ∀ n : Nat,
    digitsOnto n ds = (Nat.ofDigitChars 10 ds n, []) := by
  induction ds with
  | nil => intro n; rfl
  | cons c ds ih =>
    obtain ⟨hc, hrest⟩ := List.forall_mem_cons.mp hds
    intro n
    rw [digitsOnto, if_pos hc, ih hrest, Nat.ofDigitChars_cons, Nat.mul_comm]

/-- Only zero is written with a zero in front. -/
theorem eq_zero_of_head_digits (n : Nat) (h : (Nat.toDigits 10 n).head? = some '0') : n = 0 := by
  induction n using Nat.strongRecOn with
  | _ n ih =>
    rw [Nat.toDigits_eq_if (by decide)] at h
    split at h
    · next hdigit =>
      have hchar : ∀ m < 10, Nat.digitChar m = '0' → m = 0 := by decide
      exact hchar n hdigit (Option.some.inj h)
    · next hlong =>
      have hpos : n / 10 ≠ 0 := by omega
      cases hfront : Nat.toDigits 10 (n / 10) with
      | nil => exact absurd hfront Nat.toDigits_ne_nil
      | cons c cs =>
        rw [hfront] at h
        have hzero : (Nat.toDigits 10 (n / 10)).head? = some '0' := by rw [hfront]; exact h
        exact absurd (ih (n / 10) (by omega) hzero) hpos

/-- The digits of a natural number are read back. -/
theorem number?_digits (negative : Bool) (n : Nat) :
    number? negative (toString n).toList = some (ofWhole negative n, []) := by
  have hdigits : ∀ c ∈ Nat.toDigits 10 n, c.isDigit = true :=
    fun c hc => Nat.isDigit_of_mem_toDigits (by decide) (by decide) hc
  have hvalue : Nat.ofDigitChars 10 (Nat.toDigits 10 n) 0 = n :=
    Nat.ofDigitChars_toDigits (by decide) (by decide)
  rw [Nat.toString_eq_repr, Nat.toList_repr]
  cases hcs : Nat.toDigits 10 n with
  | nil => exact absurd hcs Nat.toDigits_ne_nil
  | cons c cs =>
    rw [hcs] at hdigits hvalue
    have hwhole : wholePart c cs = (n, []) := by
      unfold wholePart
      split
      · next hzero =>
        have hn : n = 0 := eq_zero_of_head_digits n (by rw [hcs, hzero]; rfl)
        subst hn
        obtain ⟨-, rfl⟩ := List.cons.inj (hcs.symm.trans (by decide : Nat.toDigits 10 0 = ['0']))
        rfl
      · rw [digitsOnto_digits hdigits, hvalue]
    rw [number?_cons, hwhole, hdigits c (List.mem_cons_self ..)]
    rfl

/-! ## Numerals -/

/-- White space between tokens. -/
def isSpace (c : Char) : Bool := c == ' ' || c == '\n' || c == '\r' || c == '\t'

/-- A text that is read as a number, with nothing left but white space. -/
def Numeral (v : Json Float) (cs : List Char) : Prop :=
  ∃ (negative : Bool) (digits left : List Char),
    cs = (if negative then '-' :: digits else digits) ∧
      number? negative digits = some (v, left) ∧ ∀ c ∈ left, isSpace c = true

/-- A float whose text is read back as that float. -/
def ReadsBack (x : Float) : Prop :=
  ∃ text, floatText? x = some text ∧ read? text = some (.real x)

/-- A whole number of 64 bits is no float. -/
theorem ofWhole_natural {n : Nat} (h : n < Number.wordBound 64) : ofWhole false n = .int n := by
  simp [ofWhole, h]

theorem ofWhole_negative {n : Nat} (hpos : 0 < n) (h : n ≤ Number.wordBound 63) :
    ofWhole true n = .int (-(n : Int)) := by
  simp [ofWhole, hpos, h]

/-- A whole number is read back. -/
theorem numeral_int {n : Int} (h : InRange n) : Numeral (.int n) (toString n).toList := by
  obtain ⟨hlow, hhigh⟩ := h
  by_cases hsign : 0 ≤ n
  · obtain ⟨m, rfl⟩ := Int.eq_ofNat_of_zero_le hsign
    refine ⟨false, (toString m).toList, [], rfl, ?_, by simp⟩
    rw [number?_digits, ofWhole_natural (by omega)]
  · obtain ⟨m, hm⟩ := Int.eq_ofNat_of_zero_le (show 0 ≤ -n by omega)
    obtain rfl : n = -(m : Int) := by omega
    have htext : (toString (-(m : Int))).toList = '-' :: (toString m).toList := by
      rw [show toString (-(m : Int)) = (-(m : Int)).repr from rfl, Int.repr_eq_if, if_neg hsign,
        Int.neg_neg, Int.toNat_natCast, String.toList_append]
      rfl
    refine ⟨true, (toString m).toList, [], htext, ?_, by simp⟩
    rw [number?_digits, ofWhole_negative (by omega) (by omega)]

/-- A number with a point begins with the digit that it began with. -/
theorem head_of_pointed (c : Char) (cs : List Char) {whole : Nat} (h : 0 < whole) :
    ∃ rest, (pointed (c :: cs) whole).toList = c :: rest := by
  obtain ⟨k, rfl⟩ := Nat.exists_eq_succ_of_ne_zero (Nat.ne_of_gt h)
  exact ⟨cs.take k ++ '.' :: cs.drop k, by simp [pointed]⟩

/-- The text of a decimal begins with a digit. -/
theorem decimalText_head (digits : Nat) (exponent : Int) :
    ∃ c cs, (decimalText digits exponent).toList = c :: cs ∧ c.isDigit = true := by
  have hdigits : ∀ c ∈ (toString digits).toList, c.isDigit = true := by
    rw [Nat.toString_eq_repr, Nat.toList_repr]
    exact fun c hc => Nat.isDigit_of_mem_toDigits (by decide) (by decide) hc
  have hempty : (toString digits).toList ≠ [] := by
    rw [Nat.toString_eq_repr, Nat.toList_repr]
    exact Nat.toDigits_ne_nil
  unfold decimalText
  generalize (toString digits).toList = text at hdigits hempty
  dsimp only
  cases text with
  | nil => exact absurd rfl hempty
  | cons c cs =>
    have hc := hdigits c (List.mem_cons_self ..)
    split
    · exact ⟨'0', ['.', '0'], by decide, by decide⟩
    split
    · split
      · exact ⟨c, cs ++ (zeros exponent.toNat).toList ++ ['.', '0'], by simp, hc⟩
      split
      · next hwhole =>
        obtain ⟨rest, hrest⟩ := head_of_pointed c cs (Int.lt_toNat.mpr hwhole)
        exact ⟨c, rest, hrest, hc⟩
      · exact ⟨'0', _, by simp; rfl, by decide⟩
    · -- with an exponent: the digits, with a point behind the first one unless it is alone
      have hhead : ∃ rest, (if (c :: cs).length = 1 then String.ofList (c :: cs)
          else pointed (c :: cs) 1).toList = c :: rest := by
        split
        · exact ⟨cs, by simp⟩
        · exact head_of_pointed c cs Nat.one_pos
      obtain ⟨rest, hrest⟩ := hhead
      split
      · exact ⟨c, _, by rw [String.toList_append, String.toList_append, hrest]; rfl, hc⟩
      · exact ⟨c, _, by rw [String.toList_append, String.toList_append, hrest]; rfl, hc⟩

/-- What is no white space is not passed over. -/
theorem skipSpace_cons {c : Char} (h : isSpace c = false) (cs : List Char) :
    skipSpace (c :: cs) = c :: cs :=
  List.dropWhile_cons_of_neg (Bool.eq_false_iff.mp h)

/-- What the first character of a value tells about the rest. -/
theorem value?_cons {c : Char} (h : isSpace c = false) (fuel : Nat) (cs : List Char) :
    value? (fuel + 1) (c :: cs) =
      if c = '\x7b' then
        match skipSpace cs with
        | '\x7d' :: rest => some (.obj [], rest)
        | rest => membersOnto fuel [] rest
      else if c = '[' then
        match skipSpace cs with
        | ']' :: rest => some (.arr [], rest)
        | rest => itemsOnto fuel [] rest
      else if c = '"' then (stringOnto "" (fuel + 1) cs).map fun (s, rest) => (.str s, rest)
      else if c = '-' then number? true cs
      else if c = 't' then word? ['r', 'u', 'e'] (.bool true) cs
      else if c = 'f' then word? ['a', 'l', 's', 'e'] (.bool false) cs
      else if c = 'n' then word? ['u', 'l', 'l'] .null cs
      else number? false (c :: cs) := by
  rewrite [value?.eq_def, skipSpace_cons h]
  rfl

/-- No digit is a mark with which another value begins. -/
theorem not_digit_of_mem {c : Char} (hc : c.isDigit = true) :
    ∀ d ∈ [' ', '\n', '\r', '\t', '\x7b', '[', '"', '-', 't', 'f', 'n'], c ≠ d := by
  have hmarks : [' ', '\n', '\r', '\t', '\x7b', '[', '"', '-', 't', 'f', 'n'].all
      (fun d => !d.isDigit) = true := by decide
  rintro d hd rfl
  have hmark := List.all_eq_true.mp hmarks c hd
  rw [hc] at hmark
  cases hmark

theorem isSpace_of_digit {c : Char} (hc : c.isDigit = true) : isSpace c = false := by
  have hother := not_digit_of_mem hc
  simp [isSpace, hother]

/-- What begins with a digit is read as a number. -/
theorem value?_digit {c : Char} (hc : c.isDigit = true) (fuel : Nat) (cs : List Char) :
    value? (fuel + 1) (c :: cs) = number? false (c :: cs) := by
  have hother := not_digit_of_mem hc
  rw [value?_cons (isSpace_of_digit hc)]
  simp [hother]

theorem value?_minus (fuel : Nat) (cs : List Char) :
    value? (fuel + 1) ('-' :: cs) = number? true cs := by
  rw [value?_cons (by decide)]
  rfl

/-- A text that is read has one value, and white space behind it. -/
theorem value?_of_read? {text : String} {v : Json Float} (h : read? text = some v) :
    ∃ left, value? (2 * text.toList.length + 1) text.toList = some (v, left) ∧
      ∀ c ∈ left, isSpace c = true := by
  unfold read? at h
  dsimp only at h
  split at h
  · next value left hvalue =>
    split at h
    · next hleft =>
      obtain rfl := Option.some.inj h
      exact ⟨left, hvalue, List.dropWhile_eq_nil_iff.mp (List.isEmpty_iff.mp hleft)⟩
    · cases h
  · cases h

/-- A float whose text reads back is read back as a number. -/
theorem numeral_real {x : Float} (h : ReadsBack x) :
    Numeral (.real x) ((floatText? x).getD "null").toList := by
  obtain ⟨text, htext, hread⟩ := h
  rw [htext, Option.getD_some]
  unfold floatText? at htext
  split at htext
  · obtain ⟨c, cs, hcs, hc⟩ :=
      decimalText_head (Decimal.ofFloat x).digits (Decimal.ofFloat x).exponent
    have hchars : text.toList =
        if (Decimal.ofFloat x).negative then '-' :: c :: cs else c :: cs := by
      rw [← Option.some.inj htext, String.toList_append, hcs]
      cases (Decimal.ofFloat x).negative <;> rfl
    obtain ⟨left, hvalue, hleft⟩ := value?_of_read? hread
    rw [hchars] at hvalue ⊢
    refine ⟨_, c :: cs, left, rfl, ?_, hleft⟩
    cases hsign : (Decimal.ofFloat x).negative with
    | true =>
      rw [hsign, if_pos rfl, value?_minus] at hvalue
      exact hvalue
    | false =>
      rw [hsign, if_neg Bool.false_ne_true, value?_digit hc] at hvalue
      exact hvalue
  · cases htext

end Json

end CallAtlas
