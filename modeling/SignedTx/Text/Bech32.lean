import SignedTx.Text.Hex

/-!
# Bech32

A text is a human-readable part, the separator `1`, and symbols of five bits of which the last six
are a checksum over both. Two checksum targets are known; a decoded text says which one it meets.
Octets are regrouped into symbols most significant bit first, with zero bits at the end; reading
them back refuses left-over bits that are five or more or not all zero.
-/

set_option autoImplicit false

namespace SignedTx.Bech32

abbrev Symbol := BitVec 5

inductive Variant
  | bech32
  | bech32m
deriving DecidableEq, Repr

/-- Why a text is not well-formed, or a human-readable part not usable. -/
inductive Error
  | missingSeparator
  | invalidChecksum
  | invalidLength
  | invalidCharacter (c : Char)
  | invalidPadding
  | mixedCase
deriving DecidableEq, Repr

def Error.message : Error → String
  | .missingSeparator => "missing human-readable separator, \"1\""
  | .invalidChecksum => "invalid checksum"
  | .invalidLength => "invalid length"
  | .invalidCharacter c => "invalid character (code=" ++ String.singleton c ++ ")"
  | .invalidPadding => "invalid padding"
  | .mixedCase => "mixed-case strings not allowed"

/-! ## Checksum -/

/-- The generator's contribution for the five bits shifted out. -/
def feedback (top : Symbol) : BitVec 30 :=
  (if top.getLsbD 0 then 0x3b6a57b2 else 0) ^^^
  (if top.getLsbD 1 then 0x26508e6d else 0) ^^^
  (if top.getLsbD 2 then 0x1ea119fa else 0) ^^^
  (if top.getLsbD 3 then 0x3d4233dd else 0) ^^^
  (if top.getLsbD 4 then 0x2a1462b3 else 0)

def shiftIn (remainder : BitVec 30) (symbol : Symbol) : BitVec 30 :=
  (remainder <<< 5) ^^^ symbol.setWidth 30 ^^^ feedback ((remainder >>> 25).setWidth 5)

def polymod (symbols : List Symbol) : BitVec 30 := symbols.foldl shiftIn 1

/-- The human-readable part as symbols: the high bits of each character, zero, the low bits. -/
def expand (hrp : List UInt8) : List Symbol :=
  hrp.map (fun byte => BitVec.ofNat 5 (byte.toNat / 32)) ++
    0 :: hrp.map (fun byte => BitVec.ofNat 5 byte.toNat)

def Variant.target : Variant → BitVec 30
  | .bech32 => 1
  | .bech32m => 0x2bc830a3

/-- The six symbols that bring the remainder to the target. -/
def checksum (variant : Variant) (hrp : List UInt8) (data : List Symbol) : List Symbol :=
  let remainder := polymod (expand hrp ++ data ++ List.replicate 6 0) ^^^ variant.target
  [5, 4, 3, 2, 1, 0].map fun place => (remainder >>> (5 * place)).setWidth 5

/-- The target that a human-readable part with data and checksum meets. -/
def variantOf (hrp : List UInt8) (symbols : List Symbol) : Option Variant :=
  let remainder := polymod (expand hrp ++ symbols)
  if remainder = Variant.bech32.target then some .bech32
  else if remainder = Variant.bech32m.target then some .bech32m
  else none

/-! ## Regrouping -/

def bitsOfOctet (byte : UInt8) : List Bool :=
  [7, 6, 5, 4, 3, 2, 1, 0].map byte.toBitVec.getLsbD

def bitsOfSymbol (symbol : Symbol) : List Bool :=
  [4, 3, 2, 1, 0].map symbol.getLsbD

def natOfBits (bits : List Bool) : Nat := bits.foldl (fun n bit => 2 * n + bit.toNat) 0

/-- Bits in groups of five, the last group filled with zeros. -/
def symbolsOfBits : List Bool → List Symbol
  | a :: b :: c :: d :: e :: rest =>
    BitVec.ofNat 5 (natOfBits [a, b, c, d, e]) :: symbolsOfBits rest
  | [] => []
  | short => [BitVec.ofNat 5 (natOfBits (short ++ List.replicate (5 - short.length) false))]

/-- Bits in groups of eight; what is left must be fewer than five zeros. -/
def octetsOfBits : List Bool → Except Error (List UInt8)
  | a :: b :: c :: d :: e :: f :: g :: h :: rest =>
    (octetsOfBits rest).map (UInt8.ofNat (natOfBits [a, b, c, d, e, f, g, h]) :: ·)
  | short => if short.length < 5 ∧ short.all (! ·) then .ok [] else .error .invalidPadding

def symbolsOfOctets (bytes : List UInt8) : List Symbol := symbolsOfBits (bytes.flatMap bitsOfOctet)

def octetsOfSymbols (symbols : List Symbol) : Except Error (List UInt8) :=
  octetsOfBits (symbols.flatMap bitsOfSymbol)

/-! ## Characters -/

/-- The symbols' characters in order of value. -/
def charset : List Char := "qpzry9x8gf2tvdw0s3jn54khce6mua7l".toList

def symbolChar (symbol : Symbol) : Char := charset.getD symbol.toNat 'q'

/-- The letter case that a text has shown so far. -/
inductive LetterCase
  | unseen
  | lower
  | upper
deriving DecidableEq, Repr

def isLower (c : Char) : Bool := decide ('a' ≤ c) && decide (c ≤ 'z')

def isUpper (c : Char) : Bool := decide ('A' ≤ c) && decide (c ≤ 'Z')

def toLower (c : Char) : Char := if isUpper c then Char.ofNat (c.toNat + 32) else c

/-- The case after one more character, if it agrees with the case so far. -/
def LetterCase.meet (seen : LetterCase) (c : Char) : Except Error LetterCase :=
  if isLower c then if seen = .upper then .error .mixedCase else .ok .lower
  else if isUpper c then if seen = .lower then .error .mixedCase else .ok .upper
  else .ok seen

/-- Looks at the characters of a human-readable part from the left. -/
def caseOf : LetterCase → List UInt8 → Except Error LetterCase
  | seen, [] => .ok seen
  | seen, byte :: rest =>
    let c := Char.ofNat byte.toNat
    if byte < 33 ∨ 126 < byte then .error (.invalidCharacter c)
    else
      match seen.meet c with
      | .error e => .error e
      | .ok seen => caseOf seen rest

/-- A human-readable part has 1 to 83 octets, all visible ASCII, in one case. -/
def checkHrp (hrp : String) : Except Error LetterCase :=
  let bytes := utf8 hrp
  if bytes.isEmpty ∨ 83 < bytes.length then .error .invalidLength else caseOf .unseen bytes

def lowerHrp (hrp : String) : String := String.ofList (hrp.toList.map toLower)

/-- Reads the symbols after the separator, keeping to one letter case. -/
def readSymbols : LetterCase → List Char → Except Error (List Symbol)
  | _, [] => .ok []
  | seen, c :: rest =>
    if 127 < c.toNat then .error (.invalidCharacter c)
    else
      match seen.meet c with
      | .error e => .error e
      | .ok seen =>
        match charset.idxOf? (toLower c) with
        | none => .error (.invalidCharacter c)
        | some value => (readSymbols seen rest).map (BitVec.ofNat 5 value :: ·)

/-! ## Texts -/

def encode (variant : Variant) (hrp : String) (data : List Symbol) : Except Error String :=
  match checkHrp hrp with
  | .error e => .error e
  | .ok _ =>
    let hrp := lowerHrp hrp
    let symbols := data ++ checksum variant (utf8 hrp) data
    .ok (hrp ++ String.ofList ('1' :: symbols.map symbolChar))

def splitLast (text : List Char) : Option (List Char × List Char) :=
  let backwards := text.reverse
  match backwards.dropWhile (· ≠ '1') with
  | [] => none
  | _ :: hrp => some (hrp.reverse, (backwards.takeWhile (· ≠ '1')).reverse)

/-- The human-readable part in lower case, the data without the checksum, and its variant. -/
def decode (text : String) : Except Error (String × List Symbol × Variant) :=
  match splitLast text.toList with
  | none => .error .missingSeparator
  | some (hrp, data) =>
    let hrp := String.ofList hrp
    match checkHrp hrp with
    | .error e => .error e
    | .ok seen =>
      match readSymbols seen data with
      | .error e => .error e
      | .ok symbols =>
        let hrp := lowerHrp hrp
        if symbols.length < 6 then .error .invalidLength
        else
          match variantOf (utf8 hrp) symbols with
          | none => .error .invalidChecksum
          | some variant => .ok (hrp, symbols.take (symbols.length - 6), variant)

end SignedTx.Bech32
