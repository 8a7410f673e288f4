import SignedTx.Octets

/-!
# Digits

Numbers as text, in bases up to sixteen. A character stands for a digit of a base or for none; a
run of characters is a number only if each of them is a digit of the base.
-/

set_option autoImplicit false

namespace SignedTx.Digits

/-- The value of a character as a digit, with letters of either case after nine. -/
def value? (c : Char) : Option Nat :=
  if '0' ≤ c ∧ c ≤ '9' then some (c.toNat - 48)
  else if 'a' ≤ c ∧ c ≤ 'z' then some (c.toNat - 87)
  else if 'A' ≤ c ∧ c ≤ 'Z' then some (c.toNat - 55)
  else none

def valueIn? (base : Nat) (c : Char) : Option Nat :=
  (value? c).filter (· < base)

/-- Reads digits of a base from the left, starting from `value`. -/
def foldFrom? (base : Nat) : (value : Nat) → List Char → Option Nat
  | value, [] => some value
  | value, c :: rest =>
    match valueIn? base c with
    | some digit => foldFrom? base (base * value + digit) rest
    | none => none

/-- The number that a run of digits denotes; the empty run is zero. -/
def toNat? (base : Nat) (text : List Char) : Option Nat := foldFrom? base 0 text

/-- Reads digits among which `_` may stand anywhere and counts for nothing. -/
def spacedNat? (base : Nat) (text : List Char) : Option Nat :=
  toNat? base (text.filter (· ≠ '_'))

def isDecimal (c : Char) : Bool := decide ('0' ≤ c) && decide (c ≤ '9')

/-- The number that one or more decimal digits denote, leading zeros allowed. -/
def decimal? (text : List Char) : Option Nat :=
  if text.isEmpty then none else toNat? 10 text

/-- A number in decimal, without leading zeros. -/
def decimal (n : Nat) : List Char := Nat.toDigits 10 n

/-- A number in lowercase hexadecimal, without leading zeros. -/
def hexadecimal (n : Nat) : List Char := Nat.toDigits 16 n

def hexDigit (n : Nat) : Char := Nat.digitChar n

end SignedTx.Digits
