import SignedTx.Text.Digits

/-!
# Instants in calendar form

Seconds since 1970-01-01T00:00:00Z as a date and time of the proleptic Gregorian calendar. Days are
counted in eras of 400 years that start on the first of March, so a leap day is the last of its
year. Years from 0 to 9999 have four digits; others have a sign and at least four.
-/

set_option autoImplicit false

namespace SignedTx.Instant

/-- A day of the calendar, months and days counted from one. -/
structure Date where
  year : Int
  month : Nat
  day : Nat
deriving DecidableEq, Repr

/-- Days from 1970-01-01 to a date. -/
def dayNumber (date : Date) : Int :=
  let year := if date.month ≤ 2 then date.year - 1 else date.year
  let era := year.fdiv 400
  let yearOfEra := (year - era * 400).toNat
  let dayOfYear := (153 * ((date.month + 9) % 12) + 2) / 5 + date.day - 1
  let dayOfEra := yearOfEra * 365 + yearOfEra / 4 - yearOfEra / 100 + dayOfYear
  era * 146097 + dayOfEra - 719468

def dateOfDay (days : Int) : Date :=
  let shifted := days + 719468
  let era := shifted.fdiv 146097
  let dayOfEra := (shifted - era * 146097).toNat
  let yearOfEra := (dayOfEra - dayOfEra / 1460 + dayOfEra / 36524 - dayOfEra / 146096) / 365
  let dayOfYear := dayOfEra - (365 * yearOfEra + yearOfEra / 4 - yearOfEra / 100)
  let monthFromMarch := (5 * dayOfYear + 2) / 153
  let day := dayOfYear - (153 * monthFromMarch + 2) / 5 + 1
  let month := if monthFromMarch < 10 then monthFromMarch + 3 else monthFromMarch - 9
  let year := (yearOfEra : Int) + era * 400
  ⟨if month ≤ 2 then year + 1 else year, month, day⟩

/-- A number in decimal with zeros in front up to a width. -/
def padded (width n : Nat) : List Char :=
  let digits := Digits.decimal n
  List.replicate (width - digits.length) '0' ++ digits

def yearText (year : Int) : List Char :=
  let digits := padded 4 year.natAbs
  if year < 0 then '-' :: digits else if 9999 < year then '+' :: digits else digits

def isInRange (seconds : Int) : Bool :=
  decide (-8334601228800 ≤ seconds) && decide (seconds ≤ 8210266876799)

def format (seconds : Int) : List Char :=
  let date := dateOfDay (seconds.fdiv 86400)
  let time := (seconds.fmod 86400).toNat
  yearText date.year ++ '-' :: padded 2 date.month ++ '-' :: padded 2 date.day ++
    'T' :: padded 2 (time / 3600) ++ ':' :: padded 2 (time / 60 % 60) ++
    ':' :: padded 2 (time % 60) ++ ['Z']

/-- The text of an instant, none outside the calendar's range. -/
def toText? (seconds : Int) : Option String :=
  if isInRange seconds then some (String.ofList (format seconds)) else none

end SignedTx.Instant
