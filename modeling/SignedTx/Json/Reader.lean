import SignedTx.Json.Basic
import SignedTx.Json.Double

/-!
# Reading JSON

A reader of the whole grammar over a list of characters: each step gives a value and what is left.
Of several members with one key the last counts. Nesting is bounded by the length of the text, which
serves as fuel.
-/

set_option autoImplicit false

namespace SignedTx.Json

def isBlank (c : Char) : Bool := c = ' ' || c = '\t' || c = '\n' || c = '\r'

def skipBlanks (text : List Char) : List Char := text.dropWhile isBlank

/-! ## Numbers -/

/-- Digits as they enter a significand of 64 bits: its value, and how many digits it holds. -/
def absorb : (significand held : Nat) → List Char → Nat × Nat
  | significand, held, [] => (significand, held)
  | significand, held, c :: rest =>
    let next := 10 * significand + (c.toNat - 48)
    if UInt64.size ≤ next then (significand, held) else absorb next (held + 1) rest

def readExponent (text : List Char) : Option (Int × List Char) :=
  let (negative, digits) :=
    match text with
    | '-' :: rest => (true, rest)
    | '+' :: rest => (false, rest)
    | _ => (false, text)
  match Digits.decimal? (digits.takeWhile Digits.isDecimal) with
  | some value =>
    some (if negative then -(value : Int) else value, digits.dropWhile Digits.isDecimal)
  | none => none

/-- A number after its sign: an integer if it has no point and no exponent and is in range. -/
def readMagnitude (negative : Bool) (text : List Char) : Option (Number × List Char) := do
  let whole := text.takeWhile Digits.isDecimal
  let rest := text.dropWhile Digits.isDecimal
  if whole.isEmpty ∨ (whole.head? = some '0' ∧ 1 < whole.length) then none
  else
    let (fraction, rest, pointed) ←
      match rest with
      | '.' :: more =>
        let fraction := more.takeWhile Digits.isDecimal
        if fraction.isEmpty then none
        else some (fraction, more.dropWhile Digits.isDecimal, true)
      | _ => some ([], rest, false)
    let (exponent, rest, scaled) ←
      match rest with
      | 'e' :: more | 'E' :: more => (readExponent more).map fun (e, rest) => (e, rest, true)
      | _ => some (0, rest, false)
    let (significand, held) := absorb 0 0 whole
    let fits : Bool := held = whole.length
    let integer := if negative then -(significand : Int) else significand
    let isInteger := !pointed && !scaled && fits && Int64.minValue.toInt ≤ integer &&
      !(negative && significand = 0)
    if isInteger then some (.integer integer, rest)
    else
      let (significand, behind) := absorb significand 0 fraction
      let exponent := exponent + (whole.length - held : Nat) - behind
      (doubleOfDecimal? negative significand exponent).map fun value => (.double value, rest)

def readNumber : List Char → Option (Number × List Char)
  | '-' :: rest => readMagnitude true rest
  | text => readMagnitude false text

/-! ## Strings -/

def readUnit : List Char → Option (Nat × List Char)
  | a :: b :: c :: d :: rest => (Digits.toNat? 16 [a, b, c, d]).map (·, rest)
  | _ => none

def readEscape : List Char → Option (Char × List Char)
  | 'n' :: rest => some ('\n', rest)
  | 't' :: rest => some ('\t', rest)
  | 'r' :: rest => some ('\r', rest)
  | 'b' :: rest => some ('\x08', rest)
  | 'f' :: rest => some ('\x0c', rest)
  | '"' :: rest => some ('"', rest)
  | '\\' :: rest => some ('\\', rest)
  | '/' :: rest => some ('/', rest)
  | 'u' :: rest => do
    let (first, rest) ← readUnit rest
    if first < 0xd800 ∨ 0xdfff < first then some (Char.ofNat first, rest)
    else
      match rest with
      | '\\' :: 'u' :: rest => do
        let (second, rest) ← readUnit rest
        if first < 0xdc00 ∧ 0xdc00 ≤ second ∧ second ≤ 0xdfff then
          some (Char.ofNat (0x10000 + 0x400 * (first - 0xd800) + (second - 0xdc00)), rest)
        else none
      | _ => none
  | _ => none

/-- A string after its opening quote; `fuel` bounds the number of its characters. -/
def readString : (fuel : Nat) → List Char → Option (List Char × List Char)
  | 0, _ => none
  | _ + 1, [] => none
  | _ + 1, '"' :: rest => some ([], rest)
  | fuel + 1, '\\' :: rest => do
    let (c, rest) ← readEscape rest
    let (cs, rest) ← readString fuel rest
    some (c :: cs, rest)
  | fuel + 1, c :: rest =>
    if c.toNat < 32 then none
    else do
      let (cs, rest) ← readString fuel rest
      some (c :: cs, rest)

/-! ## Values -/

mutual

def readValue : (fuel : Nat) → List Char → Option (Json × List Char)
  | 0, _ => none
  | fuel + 1, text =>
    match skipBlanks text with
    | 'n' :: 'u' :: 'l' :: 'l' :: rest => some (.null, rest)
    | 't' :: 'r' :: 'u' :: 'e' :: rest => some (.bool true, rest)
    | 'f' :: 'a' :: 'l' :: 's' :: 'e' :: rest => some (.bool false, rest)
    | '"' :: rest => (readString rest.length rest).map fun (cs, rest) =>
      (.string (String.ofList cs), rest)
    | '[' :: rest =>
      match skipBlanks rest with
      | ']' :: rest => some (.array [], rest)
      | rest => (readItems fuel rest).map fun (items, rest) => (.array items, rest)
    | '\x7b' :: rest =>
      match skipBlanks rest with
      | '\x7d' :: rest => some (.object [], rest)
      | rest => (readMembers fuel rest).map fun (members, rest) => (ofMembers members, rest)
    | text => (readNumber text).map fun (value, rest) => (Json.number value, rest)

def readItems : (fuel : Nat) → List Char → Option (List Json × List Char)
  | 0, _ => none
  | fuel + 1, text => do
    let (item, rest) ← readValue fuel text
    match skipBlanks rest with
    | ']' :: rest => some ([item], rest)
    | ',' :: rest => do
      let (items, rest) ← readItems fuel rest
      some (item :: items, rest)
    | _ => none

def readMembers : (fuel : Nat) → List Char → Option (List (String × Json) × List Char)
  | 0, _ => none
  | fuel + 1, text =>
    match skipBlanks text with
    | '"' :: rest => do
      let (key, rest) ← readString rest.length rest
      match skipBlanks rest with
      | ':' :: rest => do
        let (value, rest) ← readValue fuel rest
        let member := (String.ofList key, value)
        match skipBlanks rest with
        | '\x7d' :: rest => some ([member], rest)
        | ',' :: rest => do
          let (members, rest) ← readMembers fuel rest
          some (member :: members, rest)
        | _ => none
      | _ => none
    | _ => none

end

def parse? (text : String) : Option Json :=
  let chars := text.toList
  match readValue (chars.length + 1) chars with
  | some (json, rest) => if (skipBlanks rest).isEmpty then some json else none
  | none => none

end SignedTx.Json
