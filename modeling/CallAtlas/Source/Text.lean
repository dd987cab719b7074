/-!
# Source texts

A text together with the byte offsets at which its lines begin. Places in a text
are byte offsets; a `Point` says the same by row and column, both from 0, the
column in bytes.
-/

namespace CallAtlas

/-- A place by row and column, both counted from 0. -/
structure Point where
  row : Nat
  column : Nat
  deriving DecidableEq, Inhabited, Repr

/-- A text and the offsets of its line starts. -/
structure SourceText where
  text : String
  /-- The length in bytes. -/
  size : Nat
  lineStarts : Array Nat
  deriving Inhabited

namespace SourceText

/-- The offsets right after each line feed, in order. -/
def lineStartsOf (text : String) : Array Nat :=
  (text.foldl (fun (offset, starts) c =>
    let next := offset + c.utf8Size
    (next, if c = '\n' then starts.push next else starts)) (0, #[0])).2

/-- A text with its lines. -/
def ofString (text : String) : SourceText := ⟨text, text.utf8ByteSize, lineStartsOf text⟩

/-- The character at an offset; NUL at the end. -/
def peek (t : SourceText) (offset : Nat) : Char :=
  if offset < t.size then String.Pos.Raw.get t.text ⟨offset⟩ else '\x00'

/-- The offset of the next character; the end stays where it is. -/
def next (t : SourceText) (offset : Nat) : Nat :=
  if offset < t.size then offset + (t.peek offset).utf8Size else offset

/-- The text between two offsets. -/
def slice (t : SourceText) (start stop : Nat) : String :=
  String.Pos.Raw.extract t.text ⟨start⟩ ⟨stop⟩

/-- The number of the last line start in `[lo, hi)` that is at most `offset`,
`lo` being one; halves the range `fuel` times. -/
def searchRow (starts : Array Nat) (offset : Nat) : Nat → Nat → Nat → Nat
  | 0, lo, _ => lo
  | fuel + 1, lo, hi =>
    if hi ≤ lo + 1 then lo
    else
      let mid := (lo + hi) / 2
      if starts.getD mid 0 ≤ offset then searchRow starts offset fuel mid hi
      else searchRow starts offset fuel lo mid

/-- The row of an offset. -/
def row (t : SourceText) (offset : Nat) : Nat :=
  searchRow t.lineStarts offset (t.lineStarts.size.log2 + 2) 0 t.lineStarts.size

/-- Row and column of an offset. -/
def point (t : SourceText) (offset : Nat) : Point :=
  let row := t.row offset
  ⟨row, offset - t.lineStarts.getD row 0⟩

/-- The first offset from `offset` on whose character does not satisfy `p`. -/
def skipWhile (t : SourceText) (p : Char → Bool) (offset : Nat) : Nat :=
  go (t.size - offset) offset
where
  go : Nat → Nat → Nat
    | 0, offset => offset
    | fuel + 1, offset =>
      if offset < t.size && p (t.peek offset) then go fuel (t.next offset) else offset

end SourceText

end CallAtlas
