import SignedTx.Text.Digits

/-!
# Doubles

Finite doubles in exact natural arithmetic: a sign and `mantissa · 2 ^ exponent`. A decimal reads as
the nearest double; a double is written with the fewest digits that read back as it.
-/

set_option autoImplicit false

namespace SignedTx

/--
A finite double. The mantissa is below 2⁵³ and at least 2⁵² unless the exponent is the least one,
-1074.
-/
structure Double where
  negative : Bool
  mantissa : Nat
  exponent : Int
deriving DecidableEq, Repr

structure Magnitude where
  mantissa : Nat
  exponent : Int
deriving DecidableEq, Repr

namespace Magnitude

def zero : Magnitude := ⟨0, -1074⟩

def leading : Nat := 1 <<< 52

/-- `num · 2 ^ shift / den`, rounded to nearest with ties to even. -/
def divideRound (num den : Nat) (shift : Int) : Nat :=
  let num := if 0 ≤ shift then num <<< shift.toNat else num
  let den := if 0 ≤ shift then den else den <<< (-shift).toNat
  let quotient := num / den
  let twice := 2 * (num % den)
  if den < twice ∨ (twice = den ∧ quotient % 2 = 1) then quotient + 1 else quotient

/-- The double nearest to `num / den · 2 ^ scale`, none beyond the range. -/
def round? (num den : Nat) (scale : Int) : Option Magnitude :=
  if num = 0 then some zero
  else
    let estimate : Int := (num.log2 : Int) - den.log2
    let atLeast :=
      if 0 ≤ estimate then decide (den <<< estimate.toNat ≤ num)
      else decide (den ≤ num <<< (-estimate).toNat)
    let top := (if atLeast then estimate else estimate - 1) + scale
    let exponent := if top - 52 < -1074 then -1074 else top - 52
    let mantissa := divideRound num den (scale - exponent)
    let (mantissa, exponent) :=
      if mantissa = 2 * leading then (leading, exponent + 1) else (mantissa, exponent)
    if 971 < exponent then none else some ⟨mantissa, exponent⟩

def mul? (a b : Magnitude) : Option Magnitude :=
  round? (a.mantissa * b.mantissa) 1 (a.exponent + b.exponent)

def div? (a b : Magnitude) : Option Magnitude :=
  round? a.mantissa b.mantissa (a.exponent - b.exponent)

/-- A power of ten up to 10³⁰⁸, rounded. -/
def powerOfTen? (n : Nat) : Option Magnitude := round? (Nat.pow 10 n) 1 0

/--
The double nearest to `digits · 10 ^ exponent`, none beyond the range. A decimal with more than 310
digits before the point is beyond it, and one with more than 330 zeros after the point is nearer to
zero than to any other double.
-/
def ofDecimal? (digits : Nat) (exponent : Int) : Option Magnitude :=
  let size : Int := (Digits.decimal digits).length + exponent
  if digits = 0 ∨ size < -330 then some zero
  else if 310 < size then none
  else round? (digits * Nat.pow 10 exponent.toNat) (Nat.pow 10 (-exponent).toNat) 0

/-- The order of magnitudes: mantissas differ in size only where exponents agree. -/
def order (a b : Magnitude) : Ordering :=
  (compare a.exponent b.exponent).then (compare a.mantissa b.mantissa)

/-! ## Shortest digits -/

/-- Compares `a · 2 ^ i` with `b · 10 ^ k`. -/
def compareScaled (a : Nat) (i : Int) (b : Nat) (k : Int) : Ordering :=
  let left := (a <<< i.toNat) * Nat.pow 10 (-k).toNat
  let right := (b <<< (-i).toNat) * Nat.pow 10 k.toNat
  compare left right

/-- Whether `digits · 10 ^ place` reads back as the value: it lies between the midpoints to the
neighbours, which count as inside if the mantissa is even. -/
def readsBack (value : Magnitude) (digits : Nat) (place : Int) : Bool :=
  let even := value.mantissa % 2 = 0
  let narrow := value.mantissa = leading ∧ -1074 < value.exponent
  let low := if narrow then 4 * value.mantissa - 1 else 4 * value.mantissa - 2
  let high := 4 * value.mantissa + 2
  let below := compareScaled low (value.exponent - 2) digits place
  let above := compareScaled high (value.exponent - 2) digits place
  (below = .lt || (below = .eq && even)) && (above = .gt || (above = .eq && even))

/-- The largest `d` with `d · 10 ^ place` not above the value. -/
def floorAt (value : Magnitude) (place : Int) : Nat :=
  let num := (value.mantissa <<< value.exponent.toNat) * Nat.pow 10 (-place).toNat
  let den := Nat.pow 10 place.toNat <<< (-value.exponent).toNat
  num / den

/-- Which of two neighbouring grid points is nearer, the even one if neither is. -/
def nearer (value : Magnitude) (lower : Nat) (place : Int) : Nat :=
  match compareScaled (2 * value.mantissa) value.exponent (2 * lower + 1) place with
  | .lt => lower
  | .gt => lower + 1
  | .eq => if lower % 2 = 0 then lower else lower + 1

/-- Tries grids from the coarsest; `attempts` bounds their number. -/
def searchGrid (value : Magnitude) : (attempts : Nat) → (place : Int) → Nat × Int
  | 0, place => (floorAt value place, place)
  | attempts + 1, place =>
    let lower := floorAt value place
    match readsBack value lower place, readsBack value (lower + 1) place with
    | true, true => (nearer value lower place, place)
    | true, false => (lower, place)
    | false, true => (lower + 1, place)
    | false, false => searchGrid value attempts (place - 1)

/-- Moves zeros at the end of the digits into the exponent. -/
def trim : (attempts : Nat) → Nat × Int → Nat × Int
  | 0, found => found
  | attempts + 1, (digits, place) =>
    if digits ≠ 0 ∧ digits % 10 = 0 then trim attempts (digits / 10, place + 1)
    else (digits, place)

/-- The fewest digits that read back, and the place of the last one. -/
def shortest (value : Magnitude) : Nat × Int :=
  let bits : Int := (value.mantissa.log2 : Int) + value.exponent
  let top := (bits * 30103) / 100000 + 1
  trim 20 (searchGrid value 20 top)

end Magnitude

namespace Double

def magnitude (value : Double) : Magnitude := ⟨value.mantissa, value.exponent⟩

/-- The order of doubles; both zeros are equal. -/
def order (a b : Double) : Ordering :=
  if a.mantissa = 0 ∧ b.mantissa = 0 then .eq
  else
    match a.negative, b.negative with
    | true, false => .lt
    | false, true => .gt
    | false, false => a.magnitude.order b.magnitude
    | true, true => b.magnitude.order a.magnitude

/-- The text of a double without an exponent, and without a point if it is whole. -/
def positional (value : Double) : List Char :=
  let (number, place) := value.magnitude.shortest
  let digits := Digits.decimal number
  let places := (-place).toNat
  let padded := List.replicate (places + 1 - digits.length) '0' ++ digits
  let whole := padded.length - places
  let body :=
    if value.mantissa = 0 then ['0']
    else if 0 ≤ place then digits ++ List.replicate place.toNat '0'
    else padded.take whole ++ '.' :: padded.drop whole
  if value.negative then '-' :: body else body

end Double
end SignedTx
