import SignedTx.Crypto.Hash
import SignedTx.Json.Printer
import SignedTx.Text.Hex
import SignedTx.TypedData.TypeName

/-!
# Words of primitive values

Each primitive value is one word of 32 octets. Strings and byte strings are hashed; shorter byte
strings are padded with zeros on the right, numbers and accounts on the left. An integer may be
written as a JSON integer or as a string in decimal or marked hexadecimal, with a minus sign; its
word is its value modulo 2²⁵⁶, whatever the spelling.
-/

set_option autoImplicit false

namespace SignedTx.TypedData

/-- The digits of an integer without its sign; in the marked form underscores count for nothing. -/
def magnitude? : List Char → Option Nat
  | '0' :: 'x' :: digits | '0' :: 'X' :: digits =>
    if digits.isEmpty then none else Digits.spacedNat? 16 digits
  | digits => Digits.decimal? digits

def wordCount : Nat := 1 <<< 256

/-- An integer in a string, below 2²⁵⁶ without its sign. -/
def integerOfText? (text : List Char) : Option Int :=
  match text with
  | '-' :: digits => ((magnitude? digits).filter (· < wordCount)).map fun n => -(n : Int)
  | digits => ((magnitude? digits).filter (· < wordCount)).map fun n => (n : Int)

def integer? : Json → Option Int
  | .number (.integer value) => some value
  | .string text => integerOfText? text.toList
  | _ => none

def wordOfInt (value : Int) : Digest := Octets.ofNat 32 (value % wordCount).toNat

/-- The octets of a string in marked or plain hexadecimal. -/
def hexOctets (type : String) (json : Json) : Except Error (List UInt8) :=
  match json.string? with
  | none => .error (.invalidValue type "expected a hex string")
  | some text => (Hex.decodeMarked text).mapError fun e => .invalidValue type e.message

def integer (type : String) (json : Json) : Except Error Int :=
  match integer? json with
  | some value => .ok value
  | none => .error (.invalidValue type ("cannot parse " ++ json.print ++ " as an integer"))

/-- The word of a value of a primitive type, written `type` in the schema. -/
def Primitive.encode (hash : HashFunction) (primitive : Primitive) (type : String) (json : Json) :
    Except Error Digest :=
  match primitive with
  | .string =>
    match json.string? with
    | some text => .ok (hash (utf8 text))
    | none => .error (.invalidValue type "expected a string")
  | .bytes => (hexOctets type json).map hash
  | .fixedBytes length => do
    let bytes ← hexOctets type json
    if length < bytes.length then
      .error (.invalidValue type s!"{bytes.length} bytes do not fit in {length}")
    else .ok (Octets.padRight 32 bytes)
  | .address =>
    match json.string? with
    | none => .error (.invalidValue type "expected a hex string")
    | some text =>
      match Hex.decodeFixed 20 text with
      | .ok account => .ok ((Octets.zero 12).append account)
      | .error e => .error (.invalidValue type e.message)
  | .bool =>
    match json.bool? with
    | some value => .ok (wordOfInt value.toNat)
    | none => .error (.invalidValue type "expected a bool")
  | .uint bits => do
    let value ← integer type json
    if value < 0 then .error (.invalidValue type "negative value for unsigned type")
    else if 1 <<< bits ≤ value.toNat then
      .error (.invalidValue type s!"{value} overflows {bits} bits")
    else .ok (wordOfInt value)
  | .int bits => do
    let value ← integer type json
    let limit : Int := (1 <<< (bits - 1) : Nat)
    if value < -limit ∨ limit ≤ value then
      .error (.invalidValue type s!"value overflows {bits} bits")
    else .ok (wordOfInt value)

end SignedTx.TypedData
