import SignedTx.Yaml.Scalar

/-!
# Names, tags and directives

An anchor has a name, by which an alias stands for what the anchor is at. A tag says what kind of
value stands after it: by its full name between angle brackets, or by a handle and the rest of the
name. Directives before a document say which version of the format it is in and what handles stand
for.
-/

set_option autoImplicit false

namespace SignedTx.Yaml

def isNameChar (c : Char) : Bool := c.isAlphanum || c = '-' || c = '_'

/-- The name of an anchor, and what is left; a blank, a break or a mark follows it. -/
def readAnchor (text : List Char) : Option (String × List Char) :=
  let name := text.takeWhile isNameChar
  let rest := text.drop name.length
  let isEnded := endsWord rest || rest.head?.any fun c => "?:,]\x7d%@`".contains c
  if name.isEmpty || !isEnded then none else some (String.ofList name, rest)

/-! ## Tags -/

/-- A tag; the handle is empty if the rest is the full name. -/
structure Tag where
  handle : String
  name : String
deriving DecidableEq, Repr

/-- A character that the name of a tag is made of; between angle brackets there are more. -/
def isTagChar (bracketed : Bool) (c : Char) : Bool :=
  isNameChar c || ";/?:@&=+$.!~*'()".contains c || (bracketed && ",[]".contains c)

def readOctet : List Char → Option (Nat × List Char)
  | '%' :: a :: b :: rest => (Digits.toNat? 16 [a, b]).map (·, rest)
  | _ => none

def skipOctets : (count : Nat) → List Char → Option (List Char)
  | 0, text => some text
  | count + 1, text => do
    let (octet, rest) ← readOctet text
    if octet / 64 = 2 then skipOctets count rest else none

/-- A character in octets; one beyond ASCII, which no known tag has, reads as the replacement. -/
def readOctets (text : List Char) : Option (Char × List Char) := do
  let (octet, rest) ← readOctet text
  if octet < 0x80 then return (Char.ofNat octet, rest)
  else if octet / 32 = 6 then return ('\ufffd', ← skipOctets 1 rest)
  else if octet / 16 = 14 then return ('\ufffd', ← skipOctets 2 rest)
  else if octet / 8 = 30 then return ('\ufffd', ← skipOctets 3 rest)
  else none

/-- The name of a tag, perhaps empty, and what is left; `fuel` bounds its characters. -/
def readTagName (bracketed : Bool) : (fuel : Nat) → List Char → Option (List Char × List Char)
  | 0, text => some ([], text)
  | _ + 1, [] => some ([], [])
  | fuel + 1, c :: rest =>
    if c = '%' then do
      let (c, rest) ← readOctets (c :: rest)
      let (name, rest) ← readTagName bracketed fuel rest
      return (c :: name, rest)
    else if isTagChar bracketed c then
      (readTagName bracketed fuel rest).map fun (name, rest) => (c :: name, rest)
    else some ([], c :: rest)

def readTagName? (bracketed : Bool) (text : List Char) : Option (String × List Char) := do
  let (name, rest) ← readTagName bracketed text.length text
  if name.isEmpty then none else return (String.ofList name, rest)

def readTagBody : List Char → Option (Tag × List Char)
  | '<' :: text => do
    let (name, rest) ← readTagName? true text
    match rest with
    | '>' :: rest => return (⟨"", name⟩, rest)
    | _ => none
  | text =>
    let handle := text.takeWhile isNameChar
    match text.drop handle.length with
    | '!' :: rest =>
      (readTagName? false rest).map fun (name, rest) =>
        (⟨String.ofList ('!' :: handle ++ ['!']), name⟩, rest)
    | _ => do
      let (name, rest) ← readTagName false text.length text
      return (if name.isEmpty then ⟨"", "!"⟩ else ⟨"!", String.ofList name⟩, rest)

/-- A tag after its exclamation mark; a blank or a break follows it, within braces also a comma. -/
def readTag (flow : Bool) (text : List Char) : Option (Tag × List Char) := do
  let (tag, rest) ← readTagBody text
  if endsWord rest || (flow && rest.head? = some ',') then return (tag, rest) else none

/-! ## Directives -/

inductive Directive
  | version
  | handle (name stem : String)
deriving DecidableEq, Repr

/-- A version: 1.1 or 1.2, in numbers of nine digits at most. -/
def readVersion (text : List Char) : Option (List Char) := do
  let major := text.takeWhile Digits.isDecimal
  match text.drop major.length with
  | '.' :: rest =>
    let minor := rest.takeWhile Digits.isDecimal
    let isKnown := Digits.decimal? major = some 1 &&
      (Digits.decimal? minor = some 1 || Digits.decimal? minor = some 2)
    if isKnown && major.length ≤ 9 && minor.length ≤ 9 then return rest.drop minor.length else none
  | _ => none

def readHandle : List Char → Option (Directive × List Char)
  | '!' :: text => do
    let name := text.takeWhile isNameChar
    let (handle, rest) ←
      match text.drop name.length with
      | '!' :: rest => some ('!' :: name ++ ['!'], rest)
      | rest => if name.isEmpty then some (['!'], rest) else none
    if !rest.head?.any isBlank then none
    let (stem, rest) ← readTagName? true (rest.dropWhile isBlank)
    if endsWord rest then return (.handle (String.ofList handle) stem, rest) else none
  | _ => none

/-- A directive after its percent sign, up to the end of its line. -/
def readDirective (text : List Char) : Option (Directive × List Char) := do
  let name := text.takeWhile isNameChar
  let rest := text.drop name.length
  if !endsWord rest then none
  let content := rest.dropWhile isBlank
  let (directive, rest) ←
    match String.ofList name with
    | "YAML" => (readVersion content).map (Directive.version, ·)
    | "TAG" => readHandle content
    | _ => none
  let rest := rest.dropWhile isBlank
  let rest := if rest.head? = some '#' then rest.dropWhile (!isBreak ·) else rest
  if rest.head?.all isBreak then return (directive, rest) else none

end SignedTx.Yaml
