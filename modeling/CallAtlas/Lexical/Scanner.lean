import CallAtlas.Source.Text
import CallAtlas.Lexical.CharSet

/-!
# The scanner

Tokens that no pattern can describe: semicolons that a line break stands for,
the text of templates and markup, the question mark of a conditional, and
comments in the style of markup. The parser says which of them it could use.
-/

namespace CallAtlas

/-- What the scanner can find. -/
inductive Scan where
  | automaticSemicolon
  | templateChars
  | ternaryMark
  | htmlComment
  | jsxText
  deriving DecidableEq, Inhabited, Repr

/-- Something that the scanner has found. -/
structure Scanned where
  token : Scan
  start : Nat
  stop : Nat
  deriving Inhabited, Repr

/-- What the parser could use at a place. -/
structure ScanRequest where
  automaticSemicolon : Bool
  templateChars : Bool
  ternaryMark : Bool
  htmlComment : Bool
  logicalOr : Bool
  escapeSequence : Bool
  regexPattern : Bool
  jsxText : Bool
  /-- A semicolon after a signature without a body. -/
  signatureSemicolon : Bool
  deriving Inhabited, Repr

namespace Scanner

/-- ASCII white space. -/
def isBlank (c : Char) : Bool := c == ' ' || (9 ≤ c.toNat && c.toNat ≤ 13)

/-- The line and paragraph separators. -/
def isSeparator (c : Char) : Bool := c.toNat == 0x2028 || c.toNat == 0x2029

/-- A line feed or a separator. -/
def isLineEnd (c : Char) : Bool := c == '\n' || isSeparator c

/-- The end of the text, or a NUL. -/
def isEnd (c : Char) : Bool := c == '\x00'

/-! ## Texts -/

/-- The text of a template up to an escape, a substitution or the end of the
template. Nothing is found where the template does not end. -/
def templateText (t : SourceText) (start : Nat) : Option Scanned :=
  go (t.size - start + 1) start
where
  go : Nat → Nat → Option Scanned
    | 0, _ => none
    | fuel + 1, i =>
      let found := if start < i then some ⟨.templateChars, start, i⟩ else none
      let c := t.peek i
      if c = '\x60' || c = '\\' then found
      else if isEnd c then none
      else if c = '$' && t.peek (t.next i) = '{' then found
      else go fuel (t.next i)

/-- The text between markup, up to a tag, an expression or a character
reference; and the place where it ends. It counts only if it holds something
besides a line break with the blanks after it. -/
def markupText (t : SourceText) (start : Nat) : Bool × Nat :=
  go (t.size - start + 1) start false false
where
  go : Nat → Nat → Bool → Bool → Bool × Nat
    | 0, i, sawText, _ => (sawText, i)
    | fuel + 1, i, sawText, atNewline =>
      let c := t.peek i
      if isEnd c || "<>\x7b\x7d&".contains c then (sawText, i)
      else if c = '\n' then go fuel (t.next i) sawText true
      else
        let atNewline := atNewline && isBlank c
        go fuel (t.next i) (sawText || !atNewline) atNewline

/-- Whether a digit stands at a place. -/
def isDigitAt (t : SourceText) (i : Nat) : Bool := (t.peek i).isDigit

/-- The question mark of a conditional: not one that begins `??` or `?.`, unless
a digit follows the point. With types it is no mark either if a parameter's end
or its type follows. -/
def ternaryMark (t : SourceText) (typed : Bool) (offset : Nat) : Option Scanned :=
  let start := t.skipWhile isBlank offset
  if t.peek start ≠ '?' then none
  else
    let stop := t.next start
    if t.peek stop = '?' then none
    else
      let i := if typed then t.skipWhile isBlank stop else stop
      let c := t.peek i
      if typed && (c = ':' || c = ')' || c = ',') then none
      else if c = '.' then
        if isDigitAt t (t.next i) then some ⟨.ternaryMark, start, stop⟩ else none
      else some ⟨.ternaryMark, start, stop⟩

/-- A comment that begins as in markup and ends with the line. -/
def htmlComment (t : SourceText) (offset : Nat) : Option Scanned :=
  let start := t.skipWhile (fun c => isBlank c || isSeparator c) offset
  let opening := if t.slice start (start + 4) = "<!--" then 4
    else if t.slice start (start + 3) = "-->" then 3 else 0
  if opening = 0 then none
  else some ⟨.htmlComment, start,
    t.skipWhile (fun c => !isEnd c && !isLineEnd c) (start + opening)⟩

/-! ## Semicolons -/

/-- What lies between a place and the next code. -/
inductive Gap where
  /-- A slash that begins no comment. -/
  | code
  /-- A block comment without a line break, with code behind it on its line. -/
  | sameLine
  /-- Blanks and comments, perhaps with a line break in them. -/
  | passed
  deriving DecidableEq, Inhabited

/-- The end of a block comment that begins before `i`, whether a line break is in
it, and whether it ends at all. -/
def blockComment (t : SourceText) (i : Nat) : Nat × Bool × Bool :=
  go (t.size - i + 1) i false
where
  go : Nat → Nat → Bool → Nat × Bool × Bool
    | 0, i, broken => (i, broken, false)
    | fuel + 1, i, broken =>
      let c := t.peek i
      if isEnd c then (i, broken, false)
      else if c = '*' then
        let i := t.next i
        if t.peek i = '/' then (t.next i, broken, true) else go fuel i broken
      else go fuel (t.next i) (broken || isLineEnd c)

/-- Passes over blanks and comments. Answers what lay there, where it ends and
whether a comment was seen. Only without types does a block comment count as
seen, and only there, unless `all` is asked for, does the walk end after one. -/
def gap (t : SourceText) (typed all : Bool) (offset : Nat) (comment : Bool) : Gap × Nat × Bool :=
  go (t.size - offset + 1) offset comment false
where
  go : Nat → Nat → Bool → Bool → Gap × Nat × Bool
    | 0, i, comment, _ => (.passed, i, comment)
    | fuel + 1, i, comment, broken =>
      let i := t.skipWhile isBlank i
      if t.peek i ≠ '/' then (.passed, i, comment)
      else
        let i := t.next i
        if t.peek i = '/' then
          go fuel (t.skipWhile (fun c => !isEnd c && !isLineEnd c) (t.next i)) true broken
        else if t.peek i = '*' then
          let (i, newBreak, ended) := blockComment t (t.next i)
          let broken := broken || newBreak
          if typed || !ended then go fuel i comment broken
          else if t.peek i ≠ '/' && !all then (if broken then .passed else .sameLine, i, true)
          else go fuel i true broken
        else (.code, i, comment)

/-- Whether the text goes on with these characters, and where that ends or fails. -/
def goesOn (t : SourceText) : List Char → Nat → Bool × Nat
  | [], i => (true, i)
  | c :: rest, i => if t.peek i = c then goesOn t rest (t.next i) else (false, i)

/-- After a line break, whether a word that begins with `i` at the place leaves
the statement ended: `in` and `instanceof` continue it. -/
def endsBeforeWord (t : SourceText) (place : Nat) : Bool × Nat :=
  let i := t.next place
  if t.peek i ≠ 'n' then (true, i)
  else
    let i := t.next i
    if !(t.peek i).isAlpha then (false, i)
    else
      let (whole, i) := goesOn t "stanceof".toList i
      if !whole then (true, i) else ((t.peek i).isAlpha, i)

/-- What a search for a semicolon answers: found, or where it stopped and whether
it saw a comment. -/
inductive Semicolon where
  | found
  | notFound (stoppedAt : Nat) (comment : Bool)

/-- The answer for a yes or no at a place. -/
def Semicolon.of (comment : Bool) : Bool × Nat → Semicolon
  | (true, _) => .found
  | (false, i) => .notFound i comment

/-- Whether the second of two equal signs stands at a place: `++` and `--` end
the statement before them. -/
def doubled (t : SourceText) (place : Nat) : Bool × Nat :=
  let i := t.next place
  (t.peek i = t.peek place, i)

/-- After a line break: whether what stands at the place begins a new statement. -/
def beginsStatement (t : SourceText) (typed : Bool) (request : ScanRequest) (i : Nat)
    (comment : Bool) : Semicolon :=
  let c := t.peek i
  let no := Semicolon.notFound i comment
  if "`,;*%><=?^|&/:".contains c then no
  else if c = '+' || c = '-' then .of comment (doubled t i)
  else if c = '!' then let i := t.next i; .of comment (t.peek i ≠ '=', i)
  else if c = 'i' then .of comment (endsBeforeWord t i)
  else if typed then
    if c = '.' then no
    else if c = '{' then (if request.signatureSemicolon then no else .found)
    else if c = '(' || c = '[' then (if request.logicalOr then no else .found)
    else .found
  else
    if c = '[' || c = '(' then no
    else if c = '.' then let i := t.next i; .of comment (isDigitAt t i, i)
    else .found

/-- Looks for the end of a statement. `pastComment` allows a comment on the same
line to end it. -/
def semicolon (t : SourceText) (typed : Bool) (request : ScanRequest) (offset : Nat) : Semicolon :=
  go (t.size - offset + 1) offset false
where
  afterBreak (i : Nat) (comment : Bool) : Semicolon :=
    match gap t typed true (t.next i) comment with
    | (.code, i, comment) => .notFound i comment
    | (_, i, comment) => beginsStatement t typed request i comment
  go : Nat → Nat → Bool → Semicolon
    | 0, i, comment => .notFound i comment
    | fuel + 1, i, comment =>
      let c := t.peek i
      if isEnd c then .found
      else if typed then
        if c = '}' then
          let i := t.skipWhile isBlank (t.next i)
          if t.peek i = ':' && !request.logicalOr then .notFound i comment else .found
        else if !isBlank c then .notFound i comment
        else if c = '\n' then afterBreak i comment
        else go fuel (t.next i) comment
      else
        let (what, i, comment) :=
          if c = '/' then gap t typed false i comment else (.sameLine, i, comment)
        let next := t.peek i
        if c = '/' && what = .code then .notFound i comment
        else if c = '/' && what = .passed && !request.logicalOr && next ≠ ',' && next ≠ '=' then
          .found
        else if next = '}' then .found
        else if isLineEnd next then afterBreak i comment
        else if !isBlank next then .notFound i comment
        else go fuel (t.next i) comment

/-! ## The request -/

/-- The byte order mark at the beginning of a text is passed over. -/
def skipByteOrderMark (t : SourceText) (offset : Nat) : Nat :=
  if offset = 0 && (t.peek 0).toNat = 0xFEFF then t.next 0 else offset

/-- What the scanner finds at a place. -/
def scan (t : SourceText) (typed : Bool) (request : ScanRequest) (place : Nat) : Option Scanned :=
  let offset := skipByteOrderMark t place
  if request.templateChars then
    if request.automaticSemicolon then none else templateText t offset
  else
    let (sawText, textEnd) := if request.jsxText then markupText t offset else (false, offset)
    if sawText then some ⟨.jsxText, offset, textEnd⟩
    else if request.automaticSemicolon || (typed && request.signatureSemicolon) then
      match semicolon t typed request textEnd with
      | .found => some ⟨.automaticSemicolon, textEnd, textEnd⟩
      | .notFound i comment =>
        if !comment && request.ternaryMark && t.peek i = '?' then ternaryMark t typed i else none
    else if request.ternaryMark then ternaryMark t typed textEnd
    else if request.htmlComment && !request.logicalOr && !request.escapeSequence &&
        !request.regexPattern then
      htmlComment t textEnd
    else none

end Scanner

end CallAtlas
