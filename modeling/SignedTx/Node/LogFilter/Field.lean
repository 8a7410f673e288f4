import SignedTx.Text.Double
import SignedTx.Text.Pattern

/-!
# Tests of a span's fields

A test names a field and may give the value that the field must have: a truth value, a number, or a
pattern for its text. A value is the first of these that its text denotes, so most texts are
patterns.
-/

set_option autoImplicit false

namespace SignedTx.LogFilter

inductive Value
  | truth (value : Bool)
  | double (value : Double)
  | infinite (negative : Bool)
  | notANumber
  | natural (value : Nat)
  | integer (value : Int)
  | pattern (text : String)
deriving DecidableEq, Repr

namespace Value

def rank : Value → Nat
  | .truth _ => 0
  | .double _ | .infinite _ => 1
  | .notANumber => 2
  | .natural _ => 3
  | .integer _ => 4
  | .pattern _ => 5

/-- The order of values: by their kind, then by their size. -/
def order (left right : Value) : Ordering :=
  match left, right with
  | .truth a, .truth b => compare a b
  | .double a, .double b => a.order b
  | .double _, .infinite negative => if negative then .gt else .lt
  | .infinite negative, .double _ => if negative then .lt else .gt
  | .infinite a, .infinite b => compare b a
  | .natural a, .natural b => compare a b
  | .integer a, .integer b => compare a b
  | .pattern a, .pattern b => compare a b
  | _, _ => compare left.rank right.rank

/-- A whole number without a sign or after a plus, below 2⁶⁴. -/
def natural? (text : List Char) : Option Nat :=
  let digits :=
    match text with
    | '+' :: rest => rest
    | _ => text
  (Digits.decimal? digits).filter (· < UInt64.size)

/-- A whole number after a minus, at least -2⁶³. -/
def integer? : List Char → Option Int
  | '-' :: digits =>
    (Digits.decimal? digits).bind fun n => if n ≤ UInt64.size / 2 then some (-(n : Int)) else none
  | _ => none

/-- The power of ten after a number's digits, zero if none is written. -/
def exponent? : List Char → Option Int
  | [] => some 0
  | 'e' :: '-' :: digits | 'E' :: '-' :: digits =>
    (Digits.decimal? digits).map fun n => -(n : Int)
  | 'e' :: '+' :: digits | 'E' :: '+' :: digits | 'e' :: digits | 'E' :: digits =>
    (Digits.decimal? digits).map Int.ofNat
  | _ => none

/-- The digits of a number, with or without a point, and its power of ten. -/
def decimal? (text : List Char) : Option (Nat × Int) := do
  let whole := text.takeWhile Digits.isDecimal
  let (fraction, rest) :=
    match text.drop whole.length with
    | '.' :: rest => (rest.takeWhile Digits.isDecimal, rest.dropWhile Digits.isDecimal)
    | rest => ([], rest)
  let digits ← Digits.decimal? (whole ++ fraction)
  let exponent ← exponent? rest
  return (digits, exponent - fraction.length)

/-- A number with a point, an exponent or too many digits, infinity, or what is not a number. -/
def real? (text : List Char) : Option Value :=
  let (negative, text) :=
    match text with
    | '-' :: rest => (true, rest)
    | '+' :: rest => (false, rest)
    | _ => (false, text)
  match String.ofList (text.map Char.toLower) with
  | "inf" | "infinity" => some (.infinite negative)
  | "nan" => some .notANumber
  | _ =>
    (decimal? text).map fun (digits, exponent) =>
      match Magnitude.ofDecimal? digits exponent with
      | some value => .double ⟨negative, value.mantissa, value.exponent⟩
      | none => .infinite negative

/-- The value that a text denotes, if it is not a malformed pattern. -/
def ofText? (text : List Char) : Option Value :=
  if text = "true".toList then some (.truth true)
  else if text = "false".toList then some (.truth false)
  else
    (natural? text).map .natural <|> (integer? text).map .integer <|> real? text <|>
      if isPattern text then some (.pattern (String.ofList text)) else none

def display : Value → String
  | .truth value => if value then "true" else "false"
  | .double value => String.ofList value.positional
  | .infinite negative => if negative then "-inf" else "inf"
  | .notANumber => "NaN"
  | .natural value => String.ofList (Digits.decimal value)
  | .integer value =>
    String.ofList ((if value < 0 then ['-'] else []) ++ Digits.decimal value.natAbs)
  | .pattern text => text

end Value

structure Field where
  name : String
  value : Option Value := none
deriving DecidableEq, Repr

namespace Field

/-- Reads a name and, after `=`, a value; what a second `=` starts counts for nothing. -/
def ofText? (text : List Char) : Option Field :=
  let name := text.takeWhile (· ≠ '=')
  match text.drop name.length with
  | [] => some { name := String.ofList name }
  | _ :: rest =>
    (Value.ofText? (rest.takeWhile (· ≠ '='))).map fun value =>
      { name := String.ofList name, value := some value }

/-- The order of tests: those without a value first, then by name, then by value. -/
def order (left right : Field) : Ordering :=
  (compare left.value.isSome right.value.isSome).then <|
    (compare left.name right.name).then <|
      match left.value, right.value with
      | some a, some b => a.order b
      | _, _ => .eq

def display (field : Field) : String :=
  field.name ++ (field.value.map fun value => "=" ++ value.display).getD ""

end Field
end SignedTx.LogFilter
