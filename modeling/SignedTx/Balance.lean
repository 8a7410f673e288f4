import SignedTx.FormatError

/-!
# Balances as text

A balance counts the smallest unit in 64 bits. Its text has a whole part and exactly `decimals`
fractional digits; reading accepts fewer fractional digits, never more, and never a sign, a bare
point or a value of 2⁶⁴ and above.
-/

set_option autoImplicit false

namespace SignedTx.Balance

/-- The text of a balance: no point if there are no decimals, else at least one whole digit. -/
def format (decimals : UInt8) (value : UInt64) : String :=
  let digits := Digits.decimal value.toNat
  let places := decimals.toNat
  if places = 0 then String.ofList digits
  else
    let padded := List.replicate (places + 1 - digits.length) '0' ++ digits
    let whole := padded.length - places
    String.ofList (padded.take whole ++ '.' :: padded.drop whole)

def split (text : List Char) : List Char × Option (List Char) :=
  match text.dropWhile (· ≠ '.') with
  | [] => (text, none)
  | _ :: fraction => (text.takeWhile (· ≠ '.'), some fraction)

/-- The value of a whole part and a fraction, in smallest units. -/
def value? (places : Nat) (whole fraction : List Char) : Option Nat :=
  Digits.decimal? (whole ++ fraction ++ List.replicate (places - fraction.length) '0')

def parse (decimals : UInt8) (text : String) : Except FormatError UInt64 :=
  let (whole, fraction?) := split text.toList
  let fraction := fraction?.getD []
  let wellFormed := !whole.isEmpty && whole.all Digits.isDecimal && fraction.all Digits.isDecimal
    && fraction.length ≤ decimals.toNat && fraction? ≠ some []
  match if wellFormed then value? decimals.toNat whole fraction else none with
  | some value =>
    if value < UInt64.size then .ok (UInt64.ofNat value) else .error (.invalidBalance text)
  | none => .error (.invalidBalance text)

end SignedTx.Balance
