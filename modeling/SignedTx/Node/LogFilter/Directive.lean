import SignedTx.Node.LogFilter.Field
import SignedTx.Node.LogFilter.Level

/-!
# Directives of a log filter

A directive is a level for everything, or a target with a level, or either of them with a span in
square brackets: its name, a test of its fields in braces, or both. A target or a span without a
level lets all through.

The marks are looked for in a directive without blanks at its ends, and the parts are cut at the
same octets out of the directive as it stands. So blanks at its start shift the parts, and a part
may be cut inside a character, in which case the directive denotes nothing at all.
-/

set_option autoImplicit false

namespace SignedTx.LogFilter

inductive Error
  | invalidDirective
  | unknownLevel
  | invalidField
deriving DecidableEq, Repr

def Error.message : Error → String
  | .invalidDirective => "invalid filter directive"
  | .unknownLevel =>
    "error parsing level filter: expected one of \"off\", \"error\", \"warn\", \"info\", " ++
      "\"debug\", \"trace\", or a number 0-5"
  | .invalidField => "invalid field filter: error building NFA"

/-- What keeps a text from being read: an error of its own, or a cut inside a character. -/
inductive Failure
  | refused (cause : Error)
  | brokenCharacter
deriving DecidableEq, Repr

structure Directive where
  target : Option String := none
  span : Option String := none
  field : Option Field := none
  level : Level := .trace
deriving DecidableEq, Repr

namespace Directive

/-! ## Octets of a text -/

def octets : List Char → Nat
  | [] => 0
  | c :: rest => c.utf8Size + octets rest

/-- What follows a number of octets, if they are whole characters. -/
def dropOctets? : (count : Nat) → List Char → Option (List Char)
  | 0, text => some text
  | _ + 1, [] => none
  | count + 1, c :: rest =>
    if c.utf8Size ≤ count + 1 then dropOctets? (count + 1 - c.utf8Size) rest else none

def takeOctets? : (count : Nat) → List Char → Option (List Char)
  | 0, _ => some []
  | _ + 1, [] => none
  | count + 1, c :: rest =>
    if c.utf8Size ≤ count + 1 then (takeOctets? (count + 1 - c.utf8Size) rest).map (c :: ·)
    else none

def slice (text : List Char) (start stop : Nat) : Except Failure (List Char) :=
  match (dropOctets? start text).bind (takeOctets? (stop - start)) with
  | some part => .ok part
  | none => .error .brokenCharacter

/-! ## Reading -/

/-- What may stand first in a target or a level. -/
def opens (c : Char) : Bool := c = '-' || c = ':' || c = '_' || Category.isAlphanumeric c

def trim (text : List Char) : List Char :=
  ((text.dropWhile Category.isBlank).reverse.dropWhile Category.isBlank).reverse

/-- The level from a place on; nothing there is the most talkative one. -/
def readLevel (whole : List Char) (start : Nat) : Except Failure Level := do
  let text ← slice whole start (octets whole)
  if text.isEmpty then return .trace
  else
    match Level.ofText? text with
    | some level => return level
    | none => throw (.refused .unknownLevel)

/-- Reads what follows a span: nothing, or a level after `=`. -/
def readEnd (whole : List Char) (start : Nat) : List Char → Except Failure Level
  | [] => .ok .trace
  | '=' :: _ => readLevel whole (start + 1)
  | _ => .error (.refused .invalidDirective)

/-- Reads the test of a field after its opening brace. -/
def readField (whole : List Char) (start : Nat) (rest : List Char) :
    Except Failure (Field × Level) := do
  let inner := rest.takeWhile (· ≠ '\x7d')
  let stop := start + octets inner
  match rest.drop inner.length with
  | [] => throw (.refused .invalidDirective)
  | _ :: rest =>
    let text ← slice whole start stop
    if text.isEmpty then throw (.refused .invalidDirective)
    match Field.ofText? text with
    | none => throw (.refused .invalidField)
    | some field =>
      match rest with
      | ']' :: rest => return (field, ← readEnd whole (stop + 2) rest)
      | _ => throw (.refused .invalidDirective)

/-- Reads a span after its opening bracket; only a span without a test may have an empty name. -/
def readSpan (whole : List Char) (target : Option String) (start : Nat) (rest : List Char) :
    Except Failure Directive := do
  let inner := rest.takeWhile fun c => c ≠ ']' && c ≠ '\x7b'
  let stop := start + octets inner
  match rest.drop inner.length with
  | [] => throw (.refused .invalidDirective)
  | mark :: rest =>
    let name := String.ofList (← slice whole start stop)
    if mark = ']' then
      return { target, span := some name, level := ← readEnd whole (stop + 1) rest }
    else
      let (field, level) ← readField whole (stop + 1) rest
      let span := if name.isEmpty then none else some name
      return { target, span, field := some field, level }

def parse (whole : List Char) : Except Failure Directive :=
  match trim whole with
  | [] => .error (.refused .invalidDirective)
  | '[' :: rest => readSpan whole none 1 rest
  | first :: rest =>
    if !opens first then .error (.refused .invalidDirective)
    else do
      let name := (first :: rest).takeWhile fun c => c ≠ '=' && c ≠ '['
      let stop := octets name
      match (first :: rest).drop name.length with
      | [] =>
        match Level.ofText? whole with
        | some level => return { level }
        | none => return { target := some (String.ofList whole) }
      | mark :: rest =>
        let target := some (String.ofList (← slice whole 0 stop))
        if mark = '=' then return { target, level := ← readLevel whole (stop + 1) }
        else readSpan whole target (stop + 1) rest

/-! ## Order -/

/-- The order of names that need not be there; one that is comes after one that is not. -/
def orderNames (left right : Option String) : Ordering :=
  (compare left.isSome right.isSome).then (compare (left.getD "") (right.getD ""))

/-- The order of tests that need not be there. -/
def orderFields : Option Field → Option Field → Ordering
  | some left, some right => left.order right
  | left, right => compare left.isSome right.isSome

/-- Zero without a target, else one more than the target's octets. -/
def targetSize (directive : Directive) : Nat :=
  (directive.target.map fun target => target.utf8ByteSize + 1).getD 0

/--
The order of directives, the most specific first: by the length of the target, by whether there is a
span's name and a test, then by the texts. Directives for the same things are equal.
-/
def order (left right : Directive) : Ordering :=
  (compare right.targetSize left.targetSize).then <|
    (compare right.span.isSome left.span.isSome).then <|
      (compare right.field.isSome left.field.isSome).then <|
        (orderNames right.target left.target).then <|
          (orderNames right.span left.span).then (orderFields right.field left.field)

/-- Puts a directive at its place; one for the same things gives way. -/
def insert (directive : Directive) : List Directive → List Directive
  | [] => [directive]
  | other :: rest =>
    match directive.order other with
    | .eq => directive :: rest
    | .lt => directive :: other :: rest
    | .gt => other :: insert directive rest

/-! ## Display -/

def displaySpan (directive : Directive) : String :=
  let field := (directive.field.map fun field => "\x7b" ++ field.display ++ "\x7d").getD ""
  "[" ++ directive.span.getD "" ++ field ++ "]"

def display (directive : Directive) : String :=
  let hasSpan := directive.span.isSome || directive.field.isSome
  let scope := directive.target.getD "" ++ if hasSpan then directive.displaySpan else ""
  if directive.target.isSome || hasSpan then scope ++ "=" ++ directive.level.name
  else directive.level.name

end Directive
end SignedTx.LogFilter
