import SignedTx.Text.Quoted

/-!
# Hexadecimal text

Octets are written as two lowercase digits each. Reading takes digits of either case, works on the
octets of the text, and names the first fault: an odd length before any character, else the first
octet that is no digit. Twenty-octet account names have a reader of their own, with an optional
marker and a fixed length.
-/

set_option autoImplicit false

namespace SignedTx

def utf8 (text : String) : List UInt8 := text.toUTF8.data.toList

namespace Hex

def ofOctet (byte : UInt8) : List Char :=
  [Digits.hexDigit (byte.toNat / 16), Digits.hexDigit (byte.toNat % 16)]

def encode (bytes : List UInt8) : String := String.ofList (bytes.flatMap ofOctet)

inductive Error
  | oddLength
  | invalidCharacter (byte : UInt8) (index : Nat)
deriving DecidableEq, Repr

def Error.message : Error → String
  | .oddLength => "Odd number of digits"
  | .invalidCharacter byte index =>
    s!"Invalid character {Quoted.octet byte} at position {index}"

/-- The value of an octet that is an ASCII digit. -/
def nibble (byte : UInt8) (index : Nat) : Except Error Nat :=
  match Digits.valueIn? 16 (Char.ofNat byte.toNat) with
  | some digit => .ok digit
  | none => .error (.invalidCharacter byte index)

/-- Reads pairs of digits; `index` is the place of the first one in the text. -/
def decodePairs : (index : Nat) → List UInt8 → Except Error (List UInt8)
  | index, high :: low :: rest => do
    let upper ← nibble high index
    let lower ← nibble low (index + 1)
    let bytes ← decodePairs (index + 2) rest
    return UInt8.ofNat (16 * upper + lower) :: bytes
  | _, _ => .ok []

/-- Reads hexadecimal octets; the length is looked at first. -/
def decode (text : List UInt8) : Except Error (List UInt8) :=
  if text.length % 2 = 1 then .error .oddLength else decodePairs 0 text

/-- Reads a text of the form `0x…` or without the marker; only the lowercase marker counts. -/
def decodeMarked (text : String) : Except Error (List UInt8) :=
  match utf8 text with
  | 48 :: 120 :: rest => decode rest
  | bytes => decode bytes

def encodeMarked (bytes : List UInt8) : String := "0x" ++ encode bytes

/-- Why a text does not denote a string of a fixed number of octets. -/
inductive FixedError
  | oddLength
  | wrongLength
  | invalidCharacter (byte : UInt8) (index : Nat)
deriving DecidableEq, Repr

def FixedError.message : FixedError → String
  | .oddLength => "odd number of digits"
  | .wrongLength => "invalid string length"
  | .invalidCharacter byte index =>
    s!"invalid character {Quoted.octet byte} at position {index}"

def dropMarker : List UInt8 → List UInt8
  | 48 :: 120 :: rest => rest
  | 48 :: 88 :: rest => rest
  | bytes => bytes

/--
Reads exactly `n` octets after an optional marker. An odd length is found first, then a wrong one,
then the first character that is no digit; the case of the digits says nothing.
-/
def decodeFixed (n : Nat) (text : String) : Except FixedError (Octets n) :=
  let bytes := utf8 text
  let digits := dropMarker bytes
  if bytes.length % 2 = 1 then .error .oddLength
  else if digits.length ≠ 2 * n then .error .wrongLength
  else
    match decodePairs 0 digits with
    | .error (.invalidCharacter byte index) => .error (.invalidCharacter byte index)
    | .error .oddLength => .error .oddLength
    | .ok decoded =>
      match Octets.ofList? n decoded with
      | some value => .ok value
      | none => .error .wrongLength

end Hex
end SignedTx
