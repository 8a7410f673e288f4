import Mathlib.Algebra.Group.Nat.Defs
import SignedTx.Proofs.Text.Digits
import SignedTx.Text.Instant

/-!
# The calendar has one date for each day

The day number of the date of a day is that day, for all days before and after the epoch. The parts
of an instant's text have fixed widths after the year, so the text determines the instant, also for
negative years and years of more than four digits.
-/

set_option autoImplicit false

namespace SignedTx.Instant

/-! ## Days -/

/-- A day of an era of 400 years: full centuries, full groups of four years, full years, days. -/
structure EraDay (day centuries fours years rest : Nat) : Prop where
  sum : day = 36524 * centuries + 1461 * fours + 365 * years + rest
  centuries_le : centuries ≤ 3
  fours_le : fours ≤ 24
  years_le : years ≤ 3
  /-- Day 365 is a leap day, which ends a group of four years but not a full century. -/
  rest_le : rest ≤ 364 ∨ rest = 365 ∧ years = 3 ∧ (fours < 24 ∨ centuries = 3)

theorem exists_era_day {day : Nat} (small : day < 146097) :
    ∃ centuries fours years rest, EraDay day centuries fours years rest := by
  obtain ⟨centuries, centuriesEq⟩ : ∃ n, n = min (day / 36524) 3 := ⟨_, rfl⟩
  obtain ⟨inCentury, inCenturyEq⟩ : ∃ n, n = day - 36524 * centuries := ⟨_, rfl⟩
  have centuryEnd : inCentury < 36524 ∨ inCentury = 36524 ∧ centuries = 3 := by omega
  have daySum : day = 36524 * centuries + inCentury := by omega
  refine ⟨centuries, inCentury / 1461, min (inCentury % 1461 / 365) 3,
    inCentury % 1461 - 365 * min (inCentury % 1461 / 365) 3, ?_⟩
  constructor <;> omega

namespace EraDay

variable {day centuries fours years rest : Nat}

theorem year_eq (parts : EraDay day centuries fours years rest) :
    (day - day / 1460 + day / 36524 - day / 146096) / 365 =
      100 * centuries + 4 * fours + years := by
  obtain ⟨sum, centuriesLe, foursLe, yearsLe, restLe⟩ := parts
  have byFours : day / 1460 =
      25 * centuries + fours + (24 * centuries + fours + 365 * years + rest) / 1460 := by
    have split : day = 1460 * (25 * centuries + fours) +
        (24 * centuries + fours + 365 * years + rest) := by
      omega
    rw [split, Nat.mul_add_div (by decide)]
  have byCenturies : day / 36524 - day / 146096 = centuries := by
    obtain below | ⟨last, three⟩ :
        day < 36524 * centuries + 36524 ∨ day = 146096 ∧ centuries = 3 := by
      omega
    · have short : day < 146096 := by omega
      rw [Nat.div_eq_of_lt short, Nat.sub_zero]
      exact Nat.div_eq_of_lt_le (by omega) (by omega)
    · rw [last, three]
  have order : day / 146096 ≤ day / 36524 := Nat.div_le_div_left (by decide) (by decide)
  rw [Nat.add_sub_assoc order, byCenturies, byFours]
  apply Nat.div_eq_of_lt_le
  · omega
  · omega

theorem year_lt (parts : EraDay day centuries fours years rest) :
    100 * centuries + 4 * fours + years < 400 := by
  have centuriesLe := parts.centuries_le
  have foursLe := parts.fours_le
  have yearsLe := parts.years_le
  omega

theorem rest_le_last (parts : EraDay day centuries fours years rest) : rest ≤ 365 := by
  rcases parts.rest_le with short | ⟨last, -⟩
  · omega
  · omega

/-- The day, by whole years of which every fourth is longer, except for three in four centuries. -/
theorem day_eq (parts : EraDay day centuries fours years rest) :
    day = (100 * centuries + 4 * fours + years) * 365 + (100 * centuries + 4 * fours + years) / 4 -
      (100 * centuries + 4 * fours + years) / 100 + rest := by
  obtain ⟨sum, -, foursLe, yearsLe, -⟩ := parts
  have quarters : (100 * centuries + 4 * fours + years) / 4 = 25 * centuries + fours := by omega
  have hundreds : (100 * centuries + 4 * fours + years) / 100 = centuries := by omega
  rw [sum, quarters, hundreds]
  omega

/-- The last day of a long year is the leap day of the civil year after it. -/
theorem leap_year_of_last (parts : EraDay day centuries fours years rest) (last : rest = 365) :
    (100 * centuries + 4 * fours + years) % 4 = 3 ∧
      ((100 * centuries + 4 * fours + years) % 100 = 99 →
        100 * centuries + 4 * fours + years = 399) := by
  have foursLe := parts.fours_le
  rcases parts.rest_le with short | ⟨-, three, ends⟩
  · omega
  · constructor
    · omega
    · intro ninetynine
      omega

end EraDay

/-- The date of a day in a year that is counted from the first of March in its era. -/
def marchDate (era : Int) (year dayOfYear : Nat) : Date :=
  let fromMarch := (5 * dayOfYear + 2) / 153
  let month := if fromMarch < 10 then fromMarch + 3 else fromMarch - 9
  let civilYear := (year : Int) + era * 400
  ⟨if month ≤ 2 then civilYear + 1 else civilYear, month,
    dayOfYear - (153 * fromMarch + 2) / 5 + 1⟩

theorem date_of_day_eq_march_date (days : Int) :
    ∃ era year dayOfYear, year < 400 ∧ dayOfYear ≤ 365 ∧
      days =
        era * 146097 + ((year * 365 + year / 4 - year / 100 + dayOfYear : Nat) : Int) - 719468 ∧
      dateOfDay days = marchDate era year dayOfYear ∧
      (dayOfYear = 365 → year % 4 = 3 ∧ (year % 100 = 99 → year = 399)) := by
  obtain ⟨era, eraEq⟩ : ∃ n, n = (days + 719468).fdiv 146097 := ⟨_, rfl⟩
  obtain ⟨day, dayEq⟩ : ∃ n, n = ((days + 719468) - era * 146097).toNat := ⟨_, rfl⟩
  have floor : (days + 719468) / 146097 = era := by
    rw [eraEq, Int.fdiv_eq_ediv_of_nonneg _ (by decide)]
  have small : day < 146097 := by omega
  have daysBack : days = era * 146097 + (day : Int) - 719468 := by omega
  obtain ⟨centuries, fours, years, rest, parts⟩ := exists_era_day small
  have restEq : day - (365 * (100 * centuries + 4 * fours + years) +
      (100 * centuries + 4 * fours + years) / 4 -
        (100 * centuries + 4 * fours + years) / 100) = rest := by
    rw [Nat.mul_comm, Nat.sub_eq_iff_eq_add']
    · exact parts.day_eq
    · exact parts.day_eq ▸ Nat.le_add_right _ _
  refine ⟨era, 100 * centuries + 4 * fours + years, rest, parts.year_lt, parts.rest_le_last, ?_, ?_,
    parts.leap_year_of_last⟩
  · rw [← parts.day_eq]
    exact daysBack
  · simp only [dateOfDay, ← eraEq, ← dayEq, parts.year_eq, restEq]
    rfl

theorem day_number_march_date {era : Int} {year dayOfYear : Nat} (year_lt : year < 400)
    (day_le : dayOfYear ≤ 365) :
    dayNumber (marchDate era year dayOfYear) =
      era * 146097 + ((year * 365 + year / 4 - year / 100 + dayOfYear : Nat) : Int) - 719468 := by
  have dayBack : (153 * ((5 * dayOfYear + 2) / 153) + 2) / 5 +
      (dayOfYear - (153 * ((5 * dayOfYear + 2) / 153) + 2) / 5 + 1) - 1 = dayOfYear := by
    omega
  have eraBack : ((year : Int) + era * 400).fdiv 400 = era := by
    rw [Int.fdiv_eq_ediv_of_nonneg _ (by decide)]
    omega
  have yearBack : ((year : Int) + era * 400 - era * 400).toNat = year := by omega
  by_cases early : (5 * dayOfYear + 2) / 153 < 10
  · have sameYear : ¬ (5 * dayOfYear + 2) / 153 + 3 ≤ 2 := by omega
    have monthBack : ((5 * dayOfYear + 2) / 153 + 3 + 9) % 12 = (5 * dayOfYear + 2) / 153 := by
      omega
    simp only [dayNumber, marchDate, if_pos early, if_neg sameYear, eraBack, yearBack, monthBack,
      dayBack]
  · have nextYear : (5 * dayOfYear + 2) / 153 - 9 ≤ 2 := by omega
    have monthBack : ((5 * dayOfYear + 2) / 153 - 9 + 9) % 12 = (5 * dayOfYear + 2) / 153 := by
      omega
    have shifted : (year : Int) + era * 400 + 1 - 1 = (year : Int) + era * 400 := by omega
    simp only [dayNumber, marchDate, if_neg early, if_pos nextYear, shifted, eraBack, yearBack,
      monthBack, dayBack]

theorem day_number_date_of_day (days : Int) : dayNumber (dateOfDay days) = days := by
  obtain ⟨era, year, dayOfYear, yearLt, dayLe, daysEq, dateEq, -⟩ := date_of_day_eq_march_date days
  rw [dateEq, day_number_march_date yearLt dayLe]
  exact daysEq.symm

theorem date_of_day_bounds (days : Int) :
    1 ≤ (dateOfDay days).month ∧ (dateOfDay days).month ≤ 12 ∧
      1 ≤ (dateOfDay days).day ∧ (dateOfDay days).day ≤ 31 := by
  obtain ⟨era, year, dayOfYear, yearLt, dayLe, -, dateEq, -⟩ := date_of_day_eq_march_date days
  rw [dateEq]
  simp only [marchDate]
  split <;> omega

/-! ## Text -/

theorem padded_injective {width left right : Nat} (same : padded width left = padded width right) :
    left = right :=
  Digits.zero_led_injective same

theorem is_digit_of_mem_padded {c : Char} {width n : Nat} (member : c ∈ padded width n) :
    c.isDigit = true :=
  Digits.is_digit_of_mem_zero_led member

theorem length_padded {width n : Nat} (some_width : 0 < width) (fits : n < 10 ^ width) :
    (padded width n).length = width := by
  have few : (Digits.decimal n).length ≤ width :=
    (Nat.length_toDigits_le_iff (by decide) some_width).mpr fits
  simp only [padded, List.length_append, List.length_replicate]
  omega

theorem sign_cons_ne_padded {sign : Char} {width n : Nat} {text : List Char}
    (no_digit : sign.isDigit = false) : sign :: text ≠ padded width n := by
  intro same
  have digit : sign.isDigit = true := is_digit_of_mem_padded (same ▸ List.mem_cons_self)
  rw [no_digit] at digit
  cases digit

theorem year_text_cases (year : Int) :
    year < 0 ∧ yearText year = '-' :: padded 4 year.natAbs ∨
      9999 < year ∧ yearText year = '+' :: padded 4 year.natAbs ∨
      (0 ≤ year ∧ year ≤ 9999) ∧ yearText year = padded 4 year.natAbs := by
  by_cases negative : year < 0
  · exact .inl ⟨negative, by rw [yearText, if_pos negative]⟩
  · by_cases long : 9999 < year
    · exact .inr (.inl ⟨long, by rw [yearText, if_neg negative, if_pos long]⟩)
    · exact .inr (.inr ⟨⟨by omega, by omega⟩, by rw [yearText, if_neg negative, if_neg long]⟩)

theorem year_text_injective {left right : Int} (same : yearText left = yearText right) :
    left = right := by
  have digits : left.natAbs = right.natAbs → (left < 0 ↔ right < 0) → left = right := by omega
  rcases year_text_cases left with ⟨leftSign, leftText⟩ | ⟨leftSign, leftText⟩ |
      ⟨leftSign, leftText⟩ <;>
    rcases year_text_cases right with ⟨rightSign, rightText⟩ | ⟨rightSign, rightText⟩ |
      ⟨rightSign, rightText⟩ <;>
    rw [leftText, rightText] at same
  · exact digits (padded_injective (List.cons.inj same).2) (by omega)
  · cases same
  · exact absurd same (sign_cons_ne_padded rfl)
  · cases same
  · exact digits (padded_injective (List.cons.inj same).2) (by omega)
  · exact absurd same (sign_cons_ne_padded rfl)
  · exact absurd same.symm (sign_cons_ne_padded rfl)
  · exact absurd same.symm (sign_cons_ne_padded rfl)
  · exact digits (padded_injective same) (by omega)

/-- The year has no fixed width, so a text is taken apart from its end. -/
theorem two_digits_inj {separator : Char} {front otherFront : List Char} {n other : Nat}
    (small : n < 100) (other_small : other < 100)
    (same : front ++ separator :: padded 2 n = otherFront ++ separator :: padded 2 other) :
    front = otherFront ∧ n = other := by
  have length : (padded 2 n).length = 2 := length_padded (by decide) small
  have otherLength : (padded 2 other).length = 2 := length_padded (by decide) other_small
  have lengths : (separator :: padded 2 n).length = (separator :: padded 2 other).length := by
    rw [List.length_cons, List.length_cons, length, otherLength]
  obtain ⟨fronts, backs⟩ := List.append_inj' same lengths
  exact ⟨fronts, padded_injective (List.cons.inj backs).2⟩

theorem date_eq_of_parts {left right : Date} (year : left.year = right.year)
    (month : left.month = right.month) (day : left.day = right.day) : left = right := by
  cases left
  cases right
  cases year
  cases month
  cases day
  rfl

theorem format_injective {left right : Int} (same : format left = format right) :
    left = right := by
  obtain ⟨leftTime, leftTimeEq⟩ : ∃ n, n = (left.fmod 86400).toNat := ⟨_, rfl⟩
  obtain ⟨rightTime, rightTimeEq⟩ : ∃ n, n = (right.fmod 86400).toNat := ⟨_, rfl⟩
  have leftRange : 0 ≤ left.fmod 86400 ∧ left.fmod 86400 < 86400 :=
    ⟨Int.fmod_nonneg_of_pos _ (by decide), Int.fmod_lt_of_pos _ (by decide)⟩
  have rightRange : 0 ≤ right.fmod 86400 ∧ right.fmod 86400 < 86400 :=
    ⟨Int.fmod_nonneg_of_pos _ (by decide), Int.fmod_lt_of_pos _ (by decide)⟩
  have leftSum := Int.mul_fdiv_add_fmod left 86400
  have rightSum := Int.mul_fdiv_add_fmod right 86400
  have leftBounds := date_of_day_bounds (left.fdiv 86400)
  have rightBounds := date_of_day_bounds (right.fdiv 86400)
  simp only [format, ← leftTimeEq, ← rightTimeEq] at same
  obtain ⟨same, -⟩ := List.append_inj' same rfl
  obtain ⟨same, seconds⟩ := two_digits_inj (by omega) (by omega) same
  obtain ⟨same, minutes⟩ := two_digits_inj (by omega) (by omega) same
  obtain ⟨same, hours⟩ := two_digits_inj (by omega) (by omega) same
  obtain ⟨same, day⟩ := two_digits_inj (by omega) (by omega) same
  obtain ⟨year, month⟩ := two_digits_inj (by omega) (by omega) same
  have sameDate : dateOfDay (left.fdiv 86400) = dateOfDay (right.fdiv 86400) :=
    date_eq_of_parts (year_text_injective year) month day
  have sameDay : left.fdiv 86400 = right.fdiv 86400 := by
    rw [← day_number_date_of_day (left.fdiv 86400), sameDate, day_number_date_of_day]
  omega

theorem to_text_eq_some {seconds : Int} {text : String} : toText? seconds = some text ↔
    isInRange seconds = true ∧ text = String.ofList (format seconds) := by
  rw [toText?]
  by_cases inside : isInRange seconds = true
  · simp [inside, eq_comm]
  · simp [inside]

theorem to_text_of_in_range {seconds : Int} (ranged : isInRange seconds = true) :
    ∃ text, toText? seconds = some text :=
  ⟨_, to_text_eq_some.2 ⟨ranged, rfl⟩⟩

theorem to_text_injective {left right : Int} {text : String} (leftText : toText? left = some text)
    (rightText : toText? right = some text) : left = right := by
  obtain ⟨-, leftFormat⟩ := to_text_eq_some.1 leftText
  obtain ⟨-, rightFormat⟩ := to_text_eq_some.1 rightText
  exact format_injective (String.ofList_injective (leftFormat.symm.trans rightFormat))

end SignedTx.Instant
