import SignedTx.Text.Digits

/-!
# Scalars on a line

A scalar stands in quotes or plain. Within one, a run of blanks with a line break in it is folded:
one break becomes a space, of several the first is dropped, and blanks around them do not count. A
plain scalar ends at a colon before a blank, at a comment, at a line that is not indented deeply
enough, at the mark of a document, and within braces also at a comma or a bracket; blanks at its end
are not part of it. In double quotes a backslash starts an escape, in single quotes a quote is
written twice.
-/

set_option autoImplicit false

namespace SignedTx.Yaml

/-- A place in a text: what is left, and its line and column, counted from zero. -/
structure Cursor where
  rest : List Char
  line : Nat
  column : Nat

def isBlank (c : Char) : Bool := c = ' ' || c = '\t'

/-- A line break. The reader has made one character of all but two kinds. -/
def isBreak (c : Char) : Bool := c = '\n' || c = '\u2028' || c = '\u2029'

def endsWord : List Char → Bool
  | [] => true
  | c :: _ => isBlank c || isBreak c

/-- Whether the mark of a document's start comes next; it counts at the start of a line. -/
def isStartMark : List Char → Bool
  | '-' :: '-' :: '-' :: rest => endsWord rest
  | _ => false

/-- Whether the mark of a document's end comes next; it counts at the start of a line. -/
def isEndMark : List Char → Bool
  | '.' :: '.' :: '.' :: rest => endsWord rest
  | _ => false

def isMark (text : List Char) : Bool := isStartMark text || isEndMark text

inductive Gap
  | blanks (text : List Char)
  /-- The first break, none if it was escaped, and the breaks after it. -/
  | breaks (first : Option Char) (more : List Char)

namespace Gap

def none : Gap := .blanks []

def isNone : Gap → Bool
  | .blanks [] => true
  | _ => false

def isBroken : Gap → Bool
  | .blanks _ => false
  | .breaks _ _ => true

/-- The gap with a blank after it; blanks beside breaks do not count. -/
def addBlank (c : Char) : Gap → Gap
  | .blanks text => .blanks (text ++ [c])
  | .breaks first more => .breaks first more

def addBreak (c : Char) : Gap → Gap
  | .blanks _ => .breaks (some c) []
  | .breaks first more => .breaks first (more ++ [c])

/-- What the gap contributes to the scalar. -/
def text : Gap → List Char
  | .blanks text => text
  | .breaks (some '\n') [] => [' ']
  | .breaks (some '\n') more => more
  | .breaks first more => first.toList ++ more

end Gap

structure Reading where
  text : List Char
  next : Cursor
  isBroken : Bool

def Reading.prepend (text : List Char) (reading : Reading) : Reading :=
  { reading with text := text ++ reading.text }

/-- The characters that end a plain scalar within braces. -/
def isBracket (c : Char) : Bool := c = ',' || c = '[' || c = ']' || c = '\x7b' || c = '\x7d'

/-- Whether a plain scalar ends before a character that is neither blank nor break. -/
def endsPlain (flow : Bool) (least column : Nat) (gap : Gap) (c : Char) (rest : List Char) : Bool :=
  (column = 0 && isMark (c :: rest)) || (c = '#' && !gap.isNone) ||
    (!flow && gap.isBroken && column < least) || (c = ':' && endsWord rest) ||
    (flow && isBracket c)

/-- A colon right before a bracket, which within braces is neither text nor a mark. -/
def isClash (flow : Bool) (c : Char) : List Char → Bool
  | [] => false
  | next :: _ => flow && c = ':' && (isBracket next || next = '?')

/--
Reads a plain scalar. Outside braces its lines are indented by at least `least` columns; a tab must
not stand within that indentation.
-/
def readPlain (flow : Bool) (least : Nat) : (line column : Nat) → Gap → List Char → Option Reading
  | line, column, gap, [] => some ⟨[], ⟨[], line, column⟩, gap.isBroken⟩
  | line, column, gap, c :: rest =>
    if isBlank c then
      if gap.isBroken && column < least && c = '\t' then none
      else readPlain flow least line (column + 1) (gap.addBlank c) rest
    else if isBreak c then readPlain flow least (line + 1) 0 (gap.addBreak c) rest
    else if isClash flow c rest then none
    else if endsPlain flow least column gap c rest then
      some ⟨[], ⟨c :: rest, line, column⟩, gap.isBroken⟩
    else
      (readPlain flow least line (column + 1) .none rest).map (·.prepend (gap.text ++ [c]))

/-! ## Quotes -/

def charOfDigits? (digits : List Char) : Option Char := do
  let code ← Digits.toNat? 16 digits
  if code.isValidChar then some (Char.ofNat code) else none

/-- The character of an escape, the number of characters that it takes up, and what is left. -/
def readEscape : List Char → Option (Char × Nat × List Char)
  | '0' :: rest => some ('\x00', 1, rest)
  | 'a' :: rest => some ('\x07', 1, rest)
  | 'b' :: rest => some ('\x08', 1, rest)
  | 't' :: rest | '\t' :: rest => some ('\t', 1, rest)
  | 'n' :: rest => some ('\n', 1, rest)
  | 'v' :: rest => some ('\x0b', 1, rest)
  | 'f' :: rest => some ('\x0c', 1, rest)
  | 'r' :: rest => some ('\r', 1, rest)
  | 'e' :: rest => some ('\x1b', 1, rest)
  | ' ' :: rest => some (' ', 1, rest)
  | '"' :: rest => some ('"', 1, rest)
  | '/' :: rest => some ('/', 1, rest)
  | '\\' :: rest => some ('\\', 1, rest)
  | 'N' :: rest => some ('\u0085', 1, rest)
  | '_' :: rest => some ('\u00a0', 1, rest)
  | 'L' :: rest => some ('\u2028', 1, rest)
  | 'P' :: rest => some ('\u2029', 1, rest)
  | 'x' :: a :: b :: rest => (charOfDigits? [a, b]).map (·, 3, rest)
  | 'u' :: a :: b :: c :: d :: rest => (charOfDigits? [a, b, c, d]).map (·, 5, rest)
  | 'U' :: a :: b :: c :: d :: e :: f :: g :: h :: rest =>
    (charOfDigits? [a, b, c, d, e, f, g, h]).map (·, 9, rest)
  | _ => none

/-- Reads a scalar after its opening quote; `fuel` bounds the number of its characters. -/
def readQuoted (double : Bool) : (fuel line column : Nat) → Gap → List Char → Option Reading
  | 0, _, _, _, _ => none
  | _ + 1, _, _, _, [] => none
  | fuel + 1, line, column, gap, c :: rest =>
    if column = 0 && isMark (c :: rest) then none
    else if isBlank c then readQuoted double fuel line (column + 1) (gap.addBlank c) rest
    else if isBreak c then readQuoted double fuel (line + 1) 0 (gap.addBreak c) rest
    else
      match double, c, rest with
      | false, '\'', '\'' :: rest =>
        (readQuoted double fuel line (column + 2) .none rest).map (·.prepend (gap.text ++ ['\'']))
      | false, '\'', rest | true, '"', rest =>
        some ⟨gap.text, ⟨rest, line, column + 1⟩, false⟩
      | true, '\\', escaped =>
        if escaped.head?.any isBreak then
          (readQuoted double fuel (line + 1) 0 (.breaks none []) (escaped.drop 1)).map
            (·.prepend gap.text)
        else do
          let (c, size, rest) ← readEscape escaped
          let reading ← readQuoted double fuel line (column + 1 + size) .none rest
          return reading.prepend (gap.text ++ [c])
      | _, c, rest =>
        (readQuoted double fuel line (column + 1) .none rest).map (·.prepend (gap.text ++ [c]))

end SignedTx.Yaml
