import SignedTx.Text.Category
import SignedTx.Text.Digits

/-!
# Search patterns

Which texts are well-formed search patterns. A pattern is made of literals, escapes, classes in
square brackets, groups, alternatives and repetitions; flags at the start of a group, or alone
between parentheses, change how what follows is read. Classes, word bounds and letter case beyond
ASCII need tables that the matcher does not have, so what depends on them is refused unless the flag
`u` is off. With it off, what could match a part of a character is refused. Counts and names within
braces are no part of a pattern.
-/

set_option autoImplicit false

namespace SignedTx.Pattern

/-- The flags that decide what is well formed. -/
structure Mode where
  /-- Flag `x`: blanks, and comments after `#`, count for nothing. -/
  verbose : Bool := false
  unicode : Bool := true
  foldCase : Bool := false
deriving DecidableEq, Repr

def skipBlanks : (comment : Bool) → List Char → List Char
  | _, [] => []
  | true, c :: rest => skipBlanks (c ≠ '\n') rest
  | false, c :: rest =>
    if Category.isBlank c then skipBlanks false rest
    else if c = '#' then skipBlanks true rest
    else c :: rest

def Mode.skip (mode : Mode) (text : List Char) : List Char :=
  if mode.verbose then skipBlanks false text else text

/-- Whether a literal may stand; its case forms would need a table. -/
def Mode.allowsLiteral (mode : Mode) : Bool := !(mode.foldCase && mode.unicode)

/-! ## Escapes -/

inductive Escape
  | literal (c : Char)
  /-- A class of digits, blanks or word characters. -/
  | shorthand
  /-- The start or end of the text or of a word. -/
  | bound

/-- The hexadecimal digits of an escape, and what is left. -/
def readHex (mode : Mode) : (count : Nat) → List Char → Option (List Char × List Char)
  | 0, text => some ([], text)
  | count + 1, text =>
    match mode.skip text with
    | [] => none
    | c :: rest =>
      if (Digits.valueIn? 16 c).isSome then
        (readHex mode count rest).map fun (digits, rest) => (c :: digits, rest)
      else none

/-- A character by its code point; above ASCII, two digits may stand for an octet of a character. -/
def readCode (mode : Mode) (count : Nat) (text : List Char) : Option (Escape × List Char) := do
  let (digits, rest) ← readHex mode count text
  let code ← Digits.toNat? 16 digits
  if !code.isValidChar || (count = 2 && 127 < code && !mode.unicode) then none
  else some (.literal (Char.ofNat code), rest)

/-- An escape after its backslash, and what is left. -/
def readEscape (mode : Mode) : List Char → Option (Escape × List Char)
  | [] => none
  | 'x' :: rest => readCode mode 2 rest
  | 'u' :: rest => readCode mode 4 rest
  | 'U' :: rest => readCode mode 8 rest
  | c :: rest =>
    if "dsw".contains c then if mode.unicode then none else some (.shorthand, rest)
    else if "bB<>".contains c then if mode.unicode then none else some (.bound, rest)
    else if "Az".contains c then some (.bound, rest)
    else if c = 'a' then some (.literal '\x07', rest)
    else if c = 'f' then some (.literal '\x0c', rest)
    else if c = 't' then some (.literal '\t', rest)
    else if c = 'n' then some (.literal '\n', rest)
    else if c = 'r' then some (.literal '\r', rest)
    else if c = 'v' then some (.literal '\x0b', rest)
    else if c.toNat < 128 && !c.isAlphanum then some (.literal c, rest)
    else none

/-! ## Classes -/

def classNames : List String := [
  "alnum", "alpha", "ascii", "blank", "cntrl", "digit", "graph", "lower", "print", "punct", "space",
  "upper", "word", "xdigit"]

/-- A named class after its opening bracket: whether it is negated, and what is left. -/
def readNamedClass : List Char → Option (Bool × List Char)
  | ':' :: text =>
    let (negated, text) :=
      match text with
      | '^' :: rest => (true, rest)
      | _ => (false, text)
    let name := text.takeWhile (· ≠ ':')
    match text.drop name.length with
    | ':' :: ']' :: rest =>
      if classNames.contains (String.ofList name) then some (negated, rest) else none
    | _ => none
  | _ => none

inductive Operation
  | intersection
  | difference
  | exclusion

def readOperation : List Char → Option (Operation × List Char)
  | '&' :: '&' :: rest => some (.intersection, rest)
  | '-' :: '-' :: rest => some (.difference, rest)
  | '~' :: '~' :: rest => some (.exclusion, rest)
  | _ => none

/-- Whether what two parts make holds the octets above ASCII, of which each holds all or none. -/
def Operation.apply : Operation → Bool → Bool → Bool
  | .intersection, left, right => left && right
  | .difference, left, right => left && !right
  | .exclusion, left, right => left != right

/-- A literal as a member of a class, which holds octets if the flag `u` is off. -/
def member (mode : Mode) (c : Char) (rest : List Char) : Option (Option Char × List Char) :=
  if !mode.unicode && 128 ≤ c.toNat then none else some (some c, rest)

/-- One end of a range, or a member of a class: no character for a shorthand. -/
def readMember (mode : Mode) : List Char → Option (Option Char × List Char)
  | [] => none
  | '\\' :: rest => do
    match ← readEscape mode rest with
    | (.literal c, rest) => member mode c rest
    | (.shorthand, rest) => return (none, rest)
    | (.bound, _) => none
  | c :: rest => member mode c rest

/-- A member or a range, and what is left. -/
def readRange (mode : Mode) (text : List Char) : Option (List Char) := do
  let (first, rest) ← readMember mode text
  match mode.skip rest with
  | [] => none
  | '-' :: more =>
    match mode.skip more with
    | ']' :: _ | '-' :: _ => return mode.skip rest
    | more =>
      match first, ← readMember mode more with
      | some low, (some high, rest) => if low ≤ high then return rest else none
      | _, _ => none
  | rest => return rest

/-- A class after its opening bracket: whether it is negated, and its members. -/
def openClass (mode : Mode) (text : List Char) : Bool × List Char :=
  let (negated, text) :=
    match mode.skip text with
    | '^' :: rest => (true, mode.skip rest)
    | text => (false, text)
  match text with
  | ']' :: rest => (negated, rest)
  | text => (negated, text)

structure Members where
  negated : Bool
  /-- The parts before, and the operation after them. -/
  before : Option (Bool × Operation) := none
  /-- Whether the current part holds the octets above ASCII. -/
  high : Bool := false

def Members.total (members : Members) : Bool :=
  match members.before with
  | some (left, operation) => operation.apply left members.high
  | none => members.high

/-- The members of a class up to its closing bracket; what is left. -/
def readMembers (mode : Mode) : (fuel : Nat) → Members → List Char → Option (List Char)
  | 0, _, _ => none
  | fuel + 1, members, text =>
    let text := mode.skip text
    match readOperation text with
    | some (operation, rest) =>
      let members := { members with before := some (members.total, operation), high := false }
      readMembers mode fuel members rest
    | none =>
      match text with
      | [] => none
      | ']' :: rest =>
        if !mode.unicode && members.total != members.negated then none else some rest
      | '[' :: rest =>
        match readNamedClass rest with
        | some (negated, rest) =>
          readMembers mode fuel { members with high := members.high || negated } rest
        | none => do
          let (negated, rest) := openClass mode rest
          let rest ← readMembers mode fuel { negated } rest
          readMembers mode fuel members rest
      | _ => do readMembers mode fuel members (← readRange mode text)

def readClass (mode : Mode) (text : List Char) : Option (List Char) :=
  if !mode.allowsLiteral then none
  else
    let (negated, rest) := openClass mode text
    readMembers mode (text.length + 1) { negated } rest

/-! ## Groups -/

/-- Sets flags; those after a hyphen are turned off. -/
def Mode.set (mode : Mode) : (on : Bool) → List Char → Mode
  | _, [] => mode
  | on, flag :: rest =>
    if flag = '-' then mode.set false rest
    else
      let mode :=
        match flag with
        | 'x' => { mode with verbose := on }
        | 'u' => { mode with unicode := on }
        | 'i' => { mode with foldCase := on }
        | _ => mode
      mode.set on rest

/-- Flags are known, stand once each, and a hyphen among them is not the last. -/
def areFlags (flags : List Char) : Bool :=
  (flags.all fun flag => "imsUuRx-".contains flag) && flags.eraseDups.length = flags.length &&
    flags.getLast? != some '-'

def isGroupName : List Char → Bool
  | [] => false
  | first :: rest =>
    (first = '_' || Category.isAlphabetic first) &&
      rest.all fun c => "_.[]".contains c || Category.isAlphanumeric c

inductive Opening
  | group (name : Option (List Char)) (flags : List Char)
  /-- Flags for the rest of the group around them. -/
  | flags (flags : List Char)

def readGroupName (text : List Char) : Option (Opening × List Char) :=
  let name := text.takeWhile (· ≠ '>')
  match text.drop name.length with
  | '>' :: rest => if isGroupName name then some (.group name [], rest) else none
  | _ => none

/-- The opening of a group after its parenthesis, and what is left. -/
def readOpening : List Char → Option (Opening × List Char)
  | '?' :: 'P' :: '<' :: rest | '?' :: '<' :: rest => readGroupName rest
  | '?' :: rest =>
    let flags := rest.takeWhile fun c => c ≠ ':' && c ≠ ')'
    if !areFlags flags then none
    else
      match rest.drop flags.length with
      | ':' :: rest => some (.group none flags, rest)
      | ')' :: rest => if flags.isEmpty then none else some (.flags flags, rest)
      | _ => none
  | text => some (.group none [], text)

/-! ## Patterns -/

structure Progress where
  mode : Mode := {}
  /-- The modes of the groups around, the innermost first. -/
  around : List Mode := []
  names : List (List Char) := []
  /-- Whether something stands before that can be repeated. -/
  repeatable : Bool := false

/-- Whether the rest of a pattern is well formed; each step takes up a character. -/
def read : (fuel : Nat) → Progress → List Char → Bool
  | 0, _, _ => false
  | fuel + 1, progress, text =>
    let mode := progress.mode
    let goOn (rest : List Char) : Bool := read fuel { progress with repeatable := true } rest
    match mode.skip text with
    | [] => progress.around.isEmpty
    | '(' :: rest =>
      match readOpening (mode.skip rest) with
      | none => false
      | some (.flags flags, rest) =>
        read fuel { progress with mode := mode.set true flags, repeatable := false } rest
      | some (.group name flags, rest) =>
        !(name.any fun name => progress.names.contains name) &&
          read fuel {
            mode := mode.set true flags
            around := mode :: progress.around
            names := name.toList ++ progress.names } rest
    | ')' :: rest =>
      match progress.around with
      | [] => false
      | mode :: around => read fuel { progress with mode, around, repeatable := true } rest
    | '|' :: rest => read fuel { progress with repeatable := false } rest
    | '[' :: rest => (readClass mode rest).any goOn
    | '*' :: '?' :: rest | '+' :: '?' :: rest | '?' :: '?' :: rest
    | '*' :: rest | '+' :: rest | '?' :: rest => progress.repeatable && goOn rest
    | '\x7b' :: _ => false
    | '\\' :: rest =>
      match readEscape mode rest with
      | none => false
      | some (.literal _, rest) => mode.allowsLiteral && goOn rest
      | some (_, rest) => goOn rest
    | '.' :: rest => mode.unicode && goOn rest
    | '^' :: rest | '$' :: rest => goOn rest
    | _ :: rest => mode.allowsLiteral && goOn rest

end Pattern

def isPattern (text : List Char) : Bool := Pattern.read (text.length + 1) {} text

end SignedTx
