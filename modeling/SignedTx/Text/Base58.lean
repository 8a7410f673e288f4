import SignedTx.Text.Quoted

/-!
# Base 58

A string of octets is written as a number in base 58, with one `1` for each leading zero octet.
Leading zeros are counted apart from the number on both sides, so strings that differ only in them
have different texts.
-/

set_option autoImplicit false

namespace SignedTx.Base58

/-- The digits in order of value: no zero, capital o, capital i or small l. -/
def alphabet : List Char := "123456789ABCDEFGHJKLMNPQRSTUVWXYZabcdefghijkmnopqrstuvwxyz".toList

inductive Error
  | invalidCharacter (c : Char) (index : Nat)
  | nonAscii (index : Nat)
deriving DecidableEq, Repr

def Error.message : Error → String
  | .invalidCharacter c index =>
    s!"provided string contained invalid character {Quoted.char c} at byte {index}"
  | .nonAscii index =>
    s!"provided string contained non-ascii character starting at byte {index}"

/-- The digits of a number from the least one up; zero has none. -/
def digitsUp (n : Nat) : List Nat :=
  if h : n = 0 then [] else n % 58 :: digitsUp (n / 58)
termination_by n
decreasing_by omega

/-- The octets of a number from the least one up; zero has none. -/
def octetsUp (n : Nat) : List UInt8 :=
  if h : n = 0 then [] else UInt8.ofNat n :: octetsUp (n / 256)
termination_by n
decreasing_by omega

def digitChar (digit : Nat) : Char := alphabet.getD digit '1'

def encode (bytes : List UInt8) : String :=
  let zeros := bytes.takeWhile (· = 0)
  let digits := (digitsUp (beNat bytes)).reverse
  String.ofList (zeros.map (fun _ => '1') ++ digits.map digitChar)

/-- The values of the characters; the first character that is no digit is the fault. -/
def values : (index : Nat) → List Char → Except Error (List Nat)
  | _, [] => .ok []
  | index, c :: rest =>
    if 127 < c.toNat then .error (.nonAscii index)
    else
      match alphabet.idxOf? c with
      | none => .error (.invalidCharacter c index)
      | some value => (values (index + 1) rest).map (value :: ·)

def decode (text : String) : Except Error (List UInt8) :=
  (values 0 text.toList).map fun digits =>
    let zeros := digits.takeWhile (· = 0)
    let number := digits.foldl (fun n digit => 58 * n + digit) 0
    zeros.map (fun _ => 0) ++ (octetsUp number).reverse

end SignedTx.Base58
