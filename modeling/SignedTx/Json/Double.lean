import SignedTx.Text.Double

/-!
# Numbers with a point or an exponent

Such a number is a double. Reading one rounds its digits, then multiplies or divides once by a
rounded power of ten, so the double need not be the nearest one; printing gives the fewest digits
that read back as the same double.
-/

set_option autoImplicit false

namespace SignedTx.Json

/-- Divides by 10³⁰⁸ until the exponent is at least -308, then by what is left. -/
def divideDown : (steps : Nat) → Magnitude → (exponent : Nat) → Option Magnitude
  | 0, _, _ => some .zero
  | steps + 1, value, exponent =>
    if value.mantissa = 0 then some .zero
    else if exponent ≤ 308 then do value.div? (← Magnitude.powerOfTen? exponent)
    else do divideDown steps (← value.div? (← Magnitude.powerOfTen? 308)) (exponent - 308)

/-- The magnitude for digits and a power of ten; after four divisions nothing is left. -/
def scaled? (significand : Nat) (exponent : Int) : Option Magnitude := do
  let value ← Magnitude.round? significand 1 0
  if value.mantissa = 0 then some .zero
  else if 308 < exponent then none
  else if 0 ≤ exponent then value.mul? (← Magnitude.powerOfTen? exponent.toNat)
  else divideDown 4 value (-exponent).toNat

def doubleOfDecimal? (negative : Bool) (significand : Nat) (exponent : Int) : Option Double :=
  (scaled? significand exponent).map fun m => ⟨negative, m.mantissa, m.exponent⟩

/--
The text of a double: positional from 10⁻⁵ up to below 10¹⁶, always with a point, else one digit
before the point and a signed exponent.
-/
def doubleText (value : Double) : List Char :=
  let sign := if value.negative then ['-'] else []
  if value.mantissa = 0 then sign ++ "0.0".toList
  else
    let (significand, place) := value.magnitude.shortest
    let digits := Digits.decimal significand
    let point : Int := digits.length + place
    let body :=
      if 0 ≤ place ∧ point ≤ 16 then digits ++ List.replicate place.toNat '0' ++ ".0".toList
      else if 0 < point ∧ point ≤ 16 then
        digits.take point.toNat ++ '.' :: digits.drop point.toNat
      else if -5 < point ∧ point ≤ 0 then
        "0.".toList ++ List.replicate (-point).toNat '0' ++ digits
      else
        let power := point - 1
        let exponent := (if power < 0 then '-' else '+') :: Digits.decimal power.natAbs
        match digits with
        | [digit] => digit :: 'e' :: exponent
        | digit :: rest => digit :: '.' :: rest ++ 'e' :: exponent
        | [] => []
    sign ++ body

end SignedTx.Json
