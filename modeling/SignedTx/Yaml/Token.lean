import SignedTx.Yaml.Basic
import SignedTx.Yaml.BlockScalar
import SignedTx.Yaml.Tag

/-!
# Tokens

Layout is made explicit: a block of entries starts where a key stands deeper than the block around
it and ends where a line stands less deep. What stands on one line where a key may stand is a key if
a colon follows it, so a start of a key is kept in mind until the colon comes or the line ends, and
the tokens that mark a key are put before what has been read since.
-/

set_option autoImplicit false

namespace SignedTx.Yaml

inductive Token
  | directive (directive : Directive)
  | documentStart
  | documentEnd
  | blockStart
  | blockEnd
  | flowStart
  | flowEnd
  | separator
  | key
  | value
  | anchor (name : String)
  | reference (name : String)
  | tag (tag : Tag)
  | scalar (style : Style) (text : String)
deriving DecidableEq, Repr

/-- A place where a key may have started. -/
structure KeyStart where
  line : Nat
  column : Nat
  position : Nat
  /-- Whether only a key can stand there, since the entries of the innermost block do. -/
  isRequired : Bool

/-- Where the next token is looked for, and what has been read before. -/
structure Layout where
  cursor : Cursor
  /-- The columns of the open blocks, the innermost first. -/
  columns : List Nat := []
  keyAllowed : Bool := true
  /-- The start of a key on every level of braces, the innermost first. -/
  starts : List (Option KeyStart) := [none]
  /-- The tokens, the last one first. -/
  found : List Token := []

/--
Passes over blanks, comments and line breaks. Outside braces a key may stand on every new line, and
a tab is not a blank where a key may stand. A mark of the encoding may start a line; it counts as a
column.
-/
def skipGap (flow : Bool) :
    (keyAllowed comment : Bool) → (line column : Nat) → List Char → Bool × Cursor
  | keyAllowed, _, line, column, [] => (keyAllowed, ⟨[], line, column⟩)
  | keyAllowed, comment, line, column, c :: rest =>
    if isBreak c then skipGap flow (keyAllowed || !flow) false (line + 1) 0 rest
    else if comment || c = ' ' || (c = '\t' && (flow || !keyAllowed)) then
      skipGap flow keyAllowed comment line (column + 1) rest
    else if c = '\ufeff' && column = 0 then skipGap flow keyAllowed false line 1 rest
    else if c = '#' then skipGap flow keyAllowed true line (column + 1) rest
    else (keyAllowed, ⟨c :: rest, line, column⟩)

def isIndicator (c : Char) : Bool := "-?:,[]\x7b\x7d#&*!|>'\"%@`".contains c

def startsPlain (flow : Bool) : List Char → Bool
  | [] => false
  | c :: rest =>
    !isIndicator c || (c = '-' && !endsWord rest) ||
      (!flow && (c = '?' || c = ':') && !endsWord rest)

def maxKeyLength : Nat := 1024

namespace Layout

def inFlow (layout : Layout) : Bool := 1 < layout.starts.length

/-- The least column of lines that belong to the innermost block. -/
def least (layout : Layout) : Nat := (layout.columns.head?.map (· + 1)).getD 0

def push (layout : Layout) (token : Token) : Layout :=
  { layout with found := token :: layout.found }

def insert (layout : Layout) (position : Nat) (token : Token) : Layout :=
  let later := layout.found.length - position
  { layout with found := layout.found.take later ++ token :: layout.found.drop later }

def goTo (layout : Layout) (rest : List Char) : Layout :=
  let cursor := layout.cursor
  let column := cursor.column + (cursor.rest.length - rest.length)
  { layout with cursor := ⟨rest, cursor.line, column⟩ }

def skip (layout : Layout) : Layout :=
  let cursor := layout.cursor
  let (keyAllowed, cursor) :=
    skipGap layout.inFlow layout.keyAllowed false cursor.line cursor.column cursor.rest
  { layout with keyAllowed, cursor }

/-! ## Keys -/

/-- Gives up the starts of keys that are too far behind, unless only a key can stand there. -/
def expire? (layout : Layout) : Option Layout := do
  let ⟨_, line, column⟩ := layout.cursor
  let starts ← layout.starts.mapM fun start? =>
    match start? with
    | none => some none
    | some start =>
      if start.line < line || start.column + maxKeyLength < column then
        if start.isRequired then none else some none
      else some (some start)
  return { layout with starts }

/-- Gives up the start of a key on the innermost level, unless only a key can stand there. -/
def dropStart? (layout : Layout) : Option Layout :=
  if layout.starts.head?.join.any (·.isRequired) then none
  else some { layout with starts := none :: layout.starts.drop 1 }

def saveStart? (layout : Layout) : Option Layout := do
  if !layout.keyAllowed then return layout
  let cursor := layout.cursor
  let start : KeyStart := {
    line := cursor.line
    column := cursor.column
    position := layout.found.length
    isRequired := !layout.inFlow && layout.columns.head? = some cursor.column }
  let layout ← layout.dropStart?
  return { layout with starts := some start :: layout.starts.drop 1 }

/-- Starts a block at a column outside braces, if it is deeper than the block around. -/
def openBlock (layout : Layout) (position column : Nat) : Layout :=
  if !layout.inFlow && layout.columns.head?.all (· < column) then
    { layout.insert position .blockStart with columns := column :: layout.columns }
  else layout

/-- Ends the blocks that a condition on their columns picks out; none within braces. -/
def closeBlocks (layout : Layout) (isEnded : Nat → Bool) : Layout :=
  if layout.inFlow then layout
  else
    { layout with
      found := (layout.columns.takeWhile isEnded).map (fun _ => .blockEnd) ++ layout.found
      columns := layout.columns.dropWhile isEnded }

/-! ## Marks -/

/-- A mark or a directive of a document, which ends all blocks. -/
def readDocumentMark? (layout : Layout) (token : Token) (rest : List Char) : Option Layout := do
  let layout ← (layout.closeBlocks fun _ => true).dropStart?
  return { (layout.goTo rest).push token with keyAllowed := false }

/-- A directive with the end of its line; the next line is still no place for a key. -/
def readDirective? (layout : Layout) (text : List Char) : Option Layout := do
  let (directive, rest) ← readDirective text
  let layout ← layout.readDocumentMark? (.directive directive) rest
  return { layout with cursor := ⟨rest.drop 1, layout.cursor.line + 1, 0⟩ }

def readFlowStart? (layout : Layout) (rest : List Char) : Option Layout := do
  let layout ← layout.saveStart?
  return {
    (layout.goTo rest).push .flowStart with keyAllowed := true, starts := none :: layout.starts }

def readFlowEnd? (layout : Layout) (rest : List Char) : Option Layout := do
  let layout ← layout.dropStart?
  let starts := if layout.inFlow then layout.starts.drop 1 else layout.starts
  return { (layout.goTo rest).push .flowEnd with keyAllowed := false, starts }

def readSeparator? (layout : Layout) (rest : List Char) : Option Layout := do
  let layout ← layout.dropStart?
  return { (layout.goTo rest).push .separator with keyAllowed := true }

def readKeyMark? (layout : Layout) (rest : List Char) : Option Layout := do
  if !layout.inFlow && !layout.keyAllowed then none
  let layout ← (layout.openBlock layout.found.length layout.cursor.column).dropStart?
  return { (layout.goTo rest).push .key with keyAllowed := !layout.inFlow }

/-- A colon: what stands before it on its line is a key, or it follows a key after a mark. -/
def readValueMark? (layout : Layout) (rest : List Char) : Option Layout :=
  let value (layout : Layout) (keyAllowed : Bool) : Layout :=
    { (layout.goTo rest).push .value with keyAllowed }
  match layout.starts.head?.join with
  | some start =>
    let layout := (layout.insert start.position .key).openBlock start.position start.column
    some (value { layout with starts := none :: layout.starts.drop 1 } false)
  | none =>
    if layout.inFlow then some (value layout false)
    else if layout.keyAllowed then
      some (value (layout.openBlock layout.found.length layout.cursor.column) true)
    else none

/-! ## Content -/

/-- An anchor, an alias or a tag; what it stands before goes on with a key that it starts. -/
def readProperty? (layout : Layout) (property : Option (Token × List Char)) : Option Layout := do
  let layout ← layout.saveStart?
  let (token, rest) ← property
  return { (layout.goTo rest).push token with keyAllowed := false }

/-- A scalar on its line, or on more lines if it is folded. -/
def readScalar? (layout : Layout) (style : Style) (reading : Option Reading) : Option Layout := do
  let layout ← layout.saveStart?
  let reading ← reading
  return {
    layout.push (.scalar style (String.ofList reading.text)) with
    cursor := reading.next, keyAllowed := reading.isBroken }

/-- A scalar in lines of its own, after which a new line starts. -/
def readBlockScalar? (layout : Layout) (style : Style) (rest : List Char) : Option Layout := do
  let layout ← layout.dropStart?
  let reading ← readBlockScalar (style = .quoted) layout.least layout.cursor.line rest
  return {
    layout.push (.scalar style (String.ofList reading.text)) with
    cursor := reading.next, keyAllowed := true }

/-- Reads one token at the cursor, which is not at the end. -/
def read? (layout : Layout) : Option Layout :=
  let ⟨text, line, column⟩ := layout.cursor
  let flow := layout.inFlow
  if column = 0 && isStartMark text then layout.readDocumentMark? .documentStart (text.drop 3)
  else if column = 0 && isEndMark text then layout.readDocumentMark? .documentEnd (text.drop 3)
  else
    match text with
    | [] => none
    | c :: rest =>
      let quoted (double : Bool) : Option Layout :=
        layout.readScalar? .quoted (readQuoted double text.length line (column + 1) .none rest)
      if c = '%' && column = 0 then layout.readDirective? rest
      else if c = '\x7b' then layout.readFlowStart? rest
      else if c = '\x7d' then layout.readFlowEnd? rest
      else if c = ',' then layout.readSeparator? rest
      else if c = '?' && (flow || endsWord rest) then layout.readKeyMark? rest
      else if c = ':' && (flow || endsWord rest) then layout.readValueMark? rest
      else if c = '*' then
        layout.readProperty? ((readAnchor rest).map fun (name, rest) => (.reference name, rest))
      else if c = '&' then
        layout.readProperty? ((readAnchor rest).map fun (name, rest) => (.anchor name, rest))
      else if c = '!' then
        layout.readProperty? ((readTag flow rest).map fun (tag, rest) => (.tag tag, rest))
      else if c = '|' && !flow then layout.readBlockScalar? .literal rest
      else if c = '>' && !flow then layout.readBlockScalar? .quoted rest
      else if c = '"' then quoted true
      else if c = '\'' then quoted false
      else if startsPlain flow text then
        layout.readScalar? .plain (readPlain flow layout.least line column .none text)
      else none

/-- All tokens up to the end; each step takes up a character, so `fuel` bounds their number. -/
def tokens? : (fuel : Nat) → Layout → Option (List Token)
  | 0, _ => none
  | fuel + 1, layout => do
    let layout ← layout.skip.expire?
    if layout.cursor.rest.isEmpty then
      let layout ← (layout.closeBlocks fun _ => true).dropStart?
      return layout.found.reverse
    else
      let layout ← (layout.closeBlocks (layout.cursor.column < ·)).read?
      tokens? fuel layout

end Layout

def isAllowed (c : Char) : Bool :=
  c = '\t' || c = '\n' || (32 ≤ c.toNat && c.toNat ≤ 126) || (160 ≤ c.toNat && c.toNat ≤ 0xfffd) ||
    0x10000 ≤ c.toNat

/-- Makes one character of each line break that stands for no more than its line's end. -/
def uniteBreaks : List Char → List Char
  | '\r' :: '\n' :: rest => '\n' :: uniteBreaks rest
  | c :: rest => (if c = '\r' || c = '\u0085' then '\n' else c) :: uniteBreaks rest
  | [] => []

def tokens? (text : String) : Option (List Token) :=
  let chars := uniteBreaks text.toList
  if chars.all isAllowed then
    Layout.tokens? (chars.length + 1) { cursor := ⟨chars, 0, 0⟩ }
  else none

end SignedTx.Yaml
