import SignedTx.Yaml.Scalar

/-!
# Scalars in lines of their own

After a bar or an angle bracket a scalar stands in the lines below, which are indented more deeply
than the block around them. The indentation is that of the first line with text, or is given by a
digit. Under a bar line breaks are kept; under an angle bracket one break between two lines that
start without a blank becomes a space. A sign says what becomes of the breaks at the end: they are
kept, dropped, or by default cut down to one.
-/

set_option autoImplicit false

namespace SignedTx.Yaml

inductive Tail
  | one
  | drop
  | keep

/-- The marks after the bar or the angle bracket. -/
structure BlockMarks where
  tail : Tail := .one
  depth : Option Nat := none

/-- A sign for the breaks at the end. -/
def readTail : List Char → Option (Tail × List Char)
  | '+' :: rest => some (.keep, rest)
  | '-' :: rest => some (.drop, rest)
  | _ => none

/-- A digit for the indentation, which is not zero. -/
def readDepth (text : List Char) : Option (Option Nat × List Char) :=
  match text with
  | c :: rest =>
    if c = '0' then none
    else if Digits.isDecimal c then some (some (c.toNat - '0'.toNat), rest)
    else some (none, text)
  | [] => some (none, [])

def readMarks (text : List Char) : Option (BlockMarks × List Char) :=
  match readTail text with
  | some (tail, rest) => (readDepth rest).map fun (depth, rest) => ({ tail, depth }, rest)
  | none => do
    let (depth, rest) ← readDepth text
    match depth, readTail rest with
    | some _, some (tail, rest) => return ({ tail, depth }, rest)
    | _, _ => return ({ depth }, rest)

/-- The end of the line that holds the marks: blanks and a comment may follow them. -/
def endOfMarks (text : List Char) : Option (List Char) :=
  let rest := text.dropWhile isBlank
  let rest := if rest.head? = some '#' then rest.dropWhile (!isBreak ·) else rest
  if rest.head?.all isBreak then some (rest.drop 1) else none

structure EmptyLines where
  breaks : List Char
  /-- The deepest column that blanks reach. -/
  deepest : Nat
  next : Cursor

/--
Passes over indentation and empty lines. An indentation that is not known yet is zero; a tab must
not stand within it.
-/
def readEmptyLines (indent : Nat) : (line column deepest : Nat) → List Char → Option EmptyLines
  | line, column, deepest, [] =>
    some ⟨[], if deepest < column then column else deepest, ⟨[], line, column⟩⟩
  | line, column, deepest, c :: rest =>
    let isInside := indent = 0 || column < indent
    if c = ' ' && isInside then readEmptyLines indent line (column + 1) deepest rest
    else
      let deepest := if deepest < column then column else deepest
      if c = '\t' && isInside then none
      else if isBreak c then
        (readEmptyLines indent (line + 1) 0 deepest rest).map fun lines =>
          { lines with breaks := c :: lines.breaks }
      else some ⟨[], deepest, ⟨c :: rest, line, column⟩⟩

/-- The breaks between two lines: the first one, if there is a line before, and those after it. -/
structure Breaks where
  first : List Char := []
  more : List Char := []
  afterBlank : Bool := false

def Breaks.text (breaks : Breaks) (folded startsBlank : Bool) : List Char :=
  if folded && breaks.first = ['\n'] && !breaks.afterBlank && !startsBlank then
    if breaks.more.isEmpty then [' '] else breaks.more
  else breaks.first ++ breaks.more

def Breaks.tail (breaks : Breaks) : Tail → List Char
  | .drop => []
  | .one => breaks.first
  | .keep => breaks.first ++ breaks.more

/-- Reads lines that stand at the indentation; each takes up a character at least. -/
def readLines (folded : Bool) (tail : Tail) (indent : Nat) :
    (fuel : Nat) → Breaks → Cursor → Option Reading
  | 0, _, _ => none
  | fuel + 1, breaks, cursor =>
    if cursor.column = indent && !cursor.rest.isEmpty then do
      let startsBlank := cursor.rest.head?.any isBlank
      let words := cursor.rest.takeWhile (!isBreak ·)
      let rest := cursor.rest.drop words.length
      let column := if rest.isEmpty then cursor.column + words.length else 0
      let lines ← readEmptyLines indent (cursor.line + 1) column 0 (rest.drop 1)
      let next : Breaks := ⟨rest.take 1, lines.breaks, startsBlank⟩
      let reading ← readLines folded tail indent fuel next lines.next
      return reading.prepend (breaks.text folded startsBlank ++ words)
    else some ⟨breaks.tail tail, cursor, true⟩

/--
Reads a scalar after its bar or angle bracket. Its lines are indented by at least `least` columns,
and by one at least.
-/
def readBlockScalar (folded : Bool) (least line : Nat) (text : List Char) : Option Reading := do
  let (marks, rest) ← readMarks text
  let rest ← endOfMarks rest
  let around := least - 1
  let lines ← readEmptyLines ((marks.depth.map (around + ·)).getD 0) (line + 1) 0 0 rest
  let deepest := if lines.deepest < least then least else lines.deepest
  let indent := (marks.depth.map (around + ·)).getD (if deepest < 1 then 1 else deepest)
  readLines folded marks.tail indent (rest.length + 1) { more := lines.breaks } lines.next

end SignedTx.Yaml
