import SignedTx.Proofs.Text.Instant

/-!
# The Gregorian calendar

Leap years and the lengths of months as the calendar has them, days counted from them, and a reader
of date-times that knows nothing of eras. The date of a day is a date of this calendar and has that
day's count, so the text of an instant is read as the instant, before the year 0 and after 9999 too.
-/

set_option autoImplicit false

namespace SignedTx.Instant

/-! ## Years and months -/

def isLeap (year : Int) : Bool := year % 4 = 0 && (year % 100 ≠ 0 || year % 400 = 0)

/-- One for the leap day of a leap year. -/
def leapDay (year : Int) : Nat := (isLeap year).toNat

def monthLength (year : Int) (month : Nat) : Nat :=
  if month = 2 then 28 + leapDay year
  else if month = 4 ∨ month = 6 ∨ month = 9 ∨ month = 11 then 30
  else 31

/-- The days of the first months of a year. -/
def daysThrough (year : Int) : (months : Nat) → Nat
  | 0 => 0
  | months + 1 => daysThrough year months + monthLength year (months + 1)

/-- The leap years from the year 1 to a year; earlier ones count down. -/
def leapsThrough (year : Int) : Int := year / 4 - year / 100 + year / 400

/-- Days from 1970-01-01 to the first day of a year. -/
def yearStart (year : Int) : Int :=
  365 * (year - 1970) + (leapsThrough (year - 1) - leapsThrough 1969)

theorem leaps_through_succ (year : Int) :
    leapsThrough (year + 1) = leapsThrough year + leapDay (year + 1) := by
  rw [leapsThrough, leapsThrough, leapDay, isLeap]
  by_cases fourth : (year + 1) % 4 = 0
  · by_cases century : (year + 1) % 100 = 0
    · by_cases era : (year + 1) % 400 = 0
      · simp [fourth, century, era]
        omega
      · simp [fourth, century, era]
        omega
    · simp [fourth, century]
      omega
  · simp [fourth]
    omega

/-- From March on the months of every year are alike. -/
theorem month_length_march (year : Int) {fromMarch : Nat} (small : fromMarch < 10) :
    monthLength year (fromMarch + 3) =
      (153 * (fromMarch + 1) + 2) / 5 - (153 * fromMarch + 2) / 5 := by
  have each : ∀ n < 10, (if n + 3 = 4 ∨ n + 3 = 6 ∨ n + 3 = 9 ∨ n + 3 = 11 then 30 else 31) =
      (153 * (n + 1) + 2) / 5 - (153 * n + 2) / 5 := by
    decide
  rw [monthLength, if_neg (by omega)]
  exact each fromMarch small

theorem days_through_march (year : Int) {fromMarch : Nat} (small : fromMarch ≤ 10) :
    daysThrough year (fromMarch + 2) = 59 + leapDay year + (153 * fromMarch + 2) / 5 := by
  induction fromMarch with
  | zero =>
      have january : monthLength year 1 = 31 := rfl
      have february : monthLength year 2 = 28 + leapDay year := rfl
      rw [daysThrough, daysThrough, daysThrough, january, february]
      omega
  | succ fromMarch induction =>
      have before := induction (by omega)
      rw [Nat.add_right_comm, daysThrough, before, month_length_march year small]
      omega

theorem days_through_twelve (year : Int) : daysThrough year 12 = 365 + leapDay year := by
  have march : daysThrough year 12 = 59 + leapDay year + (153 * 10 + 2) / 5 :=
    days_through_march year (Nat.le_refl 10)
  omega

/-- Each year starts where the one before it has ended. -/
theorem year_start_succ (year : Int) :
    yearStart (year + 1) = yearStart year + daysThrough year 12 := by
  have leaps := leaps_through_succ (year - 1)
  rw [Int.sub_add_cancel] at leaps
  rw [yearStart, yearStart, days_through_twelve, Int.add_sub_cancel, leaps]
  omega

example : yearStart 1970 = 0 := by decide

/-- The range is that of 524286 whole years. -/
theorem is_in_range_iff (seconds : Int) : isInRange seconds = true ↔
    yearStart (-262143) * 86400 ≤ seconds ∧ seconds < yearStart 262143 * 86400 := by
  have first : yearStart (-262143) * 86400 = -8334601228800 := by decide
  have last : yearStart 262143 * 86400 = 8210266876800 := by decide
  rw [isInRange, Bool.and_eq_true, decide_eq_true_eq, decide_eq_true_eq, first, last]
  omega

/-! ## Dates -/

/-- The calendar has such a date. -/
structure Date.IsValid (date : Date) : Prop where
  month : 1 ≤ date.month ∧ date.month ≤ 12
  day : 1 ≤ date.day ∧ date.day ≤ monthLength date.year date.month

instance (date : Date) : Decidable date.IsValid :=
  decidable_of_iff ((1 ≤ date.month ∧ date.month ≤ 12) ∧
    1 ≤ date.day ∧ date.day ≤ monthLength date.year date.month)
    ⟨fun parts => ⟨parts.1, parts.2⟩, fun valid => ⟨valid.month, valid.day⟩⟩

/-- Days from 1970-01-01 to a date, by whole years and months. -/
def dayCount (date : Date) : Int :=
  yearStart date.year + daysThrough date.year (date.month - 1) + date.day - 1

theorem leaps_through_of_era {year : Nat} (small : year < 400) (era : Int) :
    leapsThrough ((year : Int) + era * 400) = ((year / 4 - year / 100 : Nat) : Int) + era * 97 := by
  rw [leapsThrough]
  omega

theorem day_count_march_date {era : Int} {year dayOfYear : Nat} (year_lt : year < 400)
    (day_le : dayOfYear ≤ 365) :
    dayCount (marchDate era year dayOfYear) =
      era * 146097 + ((year * 365 + year / 4 - year / 100 + dayOfYear : Nat) : Int) - 719468 := by
  obtain ⟨fromMarch, fromMarchEq⟩ : ∃ n, n = (5 * dayOfYear + 2) / 153 := ⟨_, rfl⟩
  obtain ⟨civil, civilEq⟩ : ∃ n, n = (year : Int) + era * 400 := ⟨_, rfl⟩
  have leaps := leaps_through_of_era year_lt era
  rw [← civilEq] at leaps
  have from1969 : leapsThrough 1969 = 477 := by decide
  by_cases early : fromMarch < 10
  · have sameYear : ¬ fromMarch + 3 ≤ 2 := by omega
    have months : fromMarch + 3 - 1 = fromMarch + 2 := rfl
    have through := days_through_march civil (Nat.le_of_lt early)
    have ahead := leaps_through_succ (civil - 1)
    rw [Int.sub_add_cancel] at ahead
    simp only [dayCount, marchDate, ← fromMarchEq, ← civilEq, if_pos early, if_neg sameYear, months,
      through, yearStart, from1969]
    omega
  · have nextYear : fromMarch - 9 ≤ 2 := by omega
    simp only [dayCount, marchDate, ← fromMarchEq, ← civilEq, if_neg early, if_pos nextYear,
      yearStart, from1969, Int.add_sub_cancel, leaps]
    have winter : fromMarch = 10 ∨ fromMarch = 11 := by omega
    rcases winter with january | february
    · have through : daysThrough (civil + 1) (fromMarch - 9 - 1) = 0 := by
        rw [january]
        rfl
      rw [through]
      omega
    · have through : daysThrough (civil + 1) (fromMarch - 9 - 1) = 31 := by
        rw [february]
        rfl
      rw [through]
      omega

/-- The year that the leap day belongs to is the one after the year counted from March. -/
theorem leap_day_of_last {civil : Int} {era : Int} {year : Nat} (civilEq : civil = year + era * 400)
    (last : year % 4 = 3 ∧ (year % 100 = 99 → year = 399)) : leapDay (civil + 1) = 1 := by
  have fourth : (civil + 1) % 4 = 0 := by omega
  have century : (civil + 1) % 100 ≠ 0 ∨ (civil + 1) % 400 = 0 := by omega
  have leap : isLeap (civil + 1) = true := by
    simpa [isLeap, fourth] using century
  rw [leapDay, leap]
  rfl

theorem is_valid_march_date {era : Int} {year dayOfYear : Nat} (day_le : dayOfYear ≤ 365)
    (last : dayOfYear = 365 → year % 4 = 3 ∧ (year % 100 = 99 → year = 399)) :
    (marchDate era year dayOfYear).IsValid := by
  obtain ⟨fromMarch, fromMarchEq⟩ : ∃ n, n = (5 * dayOfYear + 2) / 153 := ⟨_, rfl⟩
  obtain ⟨civil, civilEq⟩ : ∃ n, n = (year : Int) + era * 400 := ⟨_, rfl⟩
  by_cases early : fromMarch < 10
  · have length := month_length_march civil early
    have sameYear : ¬ fromMarch + 3 ≤ 2 := by omega
    simp only [marchDate, ← fromMarchEq, ← civilEq, if_pos early, if_neg sameYear]
    constructor
    · dsimp only
      omega
    · dsimp only
      rw [length]
      omega
  · have nextYear : fromMarch - 9 ≤ 2 := by omega
    simp only [marchDate, ← fromMarchEq, ← civilEq, if_neg early, if_pos nextYear]
    constructor
    · dsimp only
      omega
    · have winter : fromMarch = 10 ∨ fromMarch = 11 := by omega
      rcases winter with january | february
      · have length : monthLength (civil + 1) (fromMarch - 9) = 31 := by
          rw [january]
          rfl
        dsimp only
        rw [length]
        omega
      · have length : monthLength (civil + 1) (fromMarch - 9) = 28 + leapDay (civil + 1) := by
          rw [february]
          rfl
        have leap : dayOfYear = 365 → leapDay (civil + 1) = 1 :=
          fun day => leap_day_of_last civilEq (last day)
        dsimp only
        rw [length]
        omega

/-- The date computed for a day is the calendar's date of that day. -/
theorem date_of_day_in_calendar (days : Int) :
    (dateOfDay days).IsValid ∧ dayCount (dateOfDay days) = days := by
  obtain ⟨era, year, dayOfYear, yearLt, dayLe, daysEq, dateEq, last⟩ :=
    date_of_day_eq_march_date days
  rw [dateEq]
  exact ⟨is_valid_march_date dayLe last, (day_count_march_date yearLt dayLe).trans daysEq.symm⟩

/-! ## Reading date-times -/

/-- A year of four digits, or a sign and at least four. -/
def yearOfText? (text : List Char) : Option Int :=
  match text with
  | '-' :: digits =>
    if 4 ≤ digits.length then (Digits.decimal? digits).map fun n : Nat => -(n : Int) else none
  | '+' :: digits =>
    if 4 ≤ digits.length then (Digits.decimal? digits).map fun n : Nat => (n : Int) else none
  | digits => if digits.length = 4 then (Digits.decimal? digits).map fun n : Nat => (n : Int) else none

/-- Seconds since the epoch of a date and a time of day that exist. -/
def secondsOf? (date : Date) (hour minute second : Nat) : Option Int :=
  if date.IsValid ∧ hour < 24 ∧ minute < 60 ∧ second < 60 then
    some (dayCount date * 86400 + (hour * 3600 + minute * 60 + second : Nat))
  else none

/-- A mark and two digits, and what is left. -/
def part? (mark : Char) : List Char → Option (Nat × List Char)
  | c :: tens :: ones :: rest =>
    if c = mark then (Digits.decimal? [tens, ones]).map fun n => (n, rest) else none
  | _ => none

/-- Reads a date-time in UTC; all after the year has a fixed width. -/
def ofText? (text : List Char) : Option Int := do
  let yearLength := text.length - 16
  let year ← yearOfText? (text.take yearLength)
  let (month, text) ← part? '-' (text.drop yearLength)
  let (day, text) ← part? '-' text
  let (hour, text) ← part? 'T' text
  let (minute, text) ← part? ':' text
  let (second, text) ← part? ':' text
  if text = ['Z'] then secondsOf? ⟨year, month, day⟩ hour minute second else none

theorem part_of_padded {n : Nat} (small : n < 100) (mark : Char) (rest : List Char) :
    part? mark (mark :: (padded 2 n ++ rest)) = some (n, rest) := by
  have length : (padded 2 n).length = 2 := length_padded (by decide) small
  have value : Digits.decimal? (padded 2 n) = some n := Digits.decimal_zero_led _ n
  match padded 2 n, length, value with
  | [tens, ones], _, value =>
      rw [List.cons_append, List.cons_append, List.nil_append, part?, if_pos rfl, value]
      rfl

theorem year_of_year_text (year : Int) : yearOfText? (yearText year) = some year := by
  have value : Digits.decimal? (padded 4 year.natAbs) = some year.natAbs :=
    Digits.decimal_zero_led _ _
  have length : 4 ≤ (padded 4 year.natAbs).length := by
    simp only [padded, List.length_append, List.length_replicate]
    omega
  rcases year_text_cases year with ⟨negative, text⟩ | ⟨long, text⟩ | ⟨four, text⟩
  · rw [text, yearOfText?, if_pos length, value, Option.map_some]
    exact congrArg some (by omega)
  · rw [text, yearOfText?, if_pos length, value, Option.map_some]
    exact congrArg some (by omega)
  · have exactly : (padded 4 year.natAbs).length = 4 :=
      length_padded (by decide) (by omega)
    rw [text]
    unfold yearOfText?
    split
    · rename_i same
      exact absurd same.symm (sign_cons_ne_padded rfl)
    · rename_i same
      exact absurd same.symm (sign_cons_ne_padded rfl)
    · rw [if_pos exactly, value, Option.map_some]
      exact congrArg some (by omega)

/-- The text of a date and a time of day is cut where it was joined. -/
theorem of_text_of_parts {date : Date} {hour minute second : Nat} (month_lt : date.month < 100)
    (day_lt : date.day < 100) (hour_lt : hour < 100) (minute_lt : minute < 100)
    (second_lt : second < 100) :
    ofText? (yearText date.year ++ '-' :: padded 2 date.month ++ '-' :: padded 2 date.day ++
      'T' :: padded 2 hour ++ ':' :: padded 2 minute ++ ':' :: padded 2 second ++ ['Z']) =
      secondsOf? date hour minute second := by
  have length : ∀ {n}, n < 100 → (padded 2 n).length = 2 := fun small => length_padded (by decide) small
  obtain ⟨tail, tailEq⟩ : ∃ tail, tail = '-' :: (padded 2 date.month ++ '-' ::
      (padded 2 date.day ++ 'T' :: (padded 2 hour ++ ':' :: (padded 2 minute ++
        ':' :: (padded 2 second ++ ['Z']))))) := ⟨_, rfl⟩
  have tailLength : tail.length = 16 := by
    simp [tailEq, length month_lt, length day_lt, length hour_lt, length minute_lt,
      length second_lt]
  have joined : yearText date.year ++ '-' :: padded 2 date.month ++ '-' :: padded 2 date.day ++
      'T' :: padded 2 hour ++ ':' :: padded 2 minute ++ ':' :: padded 2 second ++ ['Z'] =
      yearText date.year ++ tail := by
    rw [tailEq]
    simp only [List.append_assoc, List.cons_append]
  have yearLength : (yearText date.year ++ tail).length - 16 = (yearText date.year).length := by
    rw [List.length_append, tailLength, Nat.add_sub_cancel]
  simp only [joined, ofText?, yearLength, List.take_left, List.drop_left, year_of_year_text]
  simp only [tailEq, Option.bind_eq_bind, Option.bind_some, part_of_padded month_lt,
    part_of_padded day_lt, part_of_padded hour_lt, part_of_padded minute_lt,
    part_of_padded second_lt, if_true]

theorem of_text_format (seconds : Int) : ofText? (format seconds) = some seconds := by
  obtain ⟨time, timeEq⟩ : ∃ n, n = (seconds.fmod 86400).toNat := ⟨_, rfl⟩
  have range : 0 ≤ seconds.fmod 86400 ∧ seconds.fmod 86400 < 86400 :=
    ⟨Int.fmod_nonneg_of_pos _ (by decide), Int.fmod_lt_of_pos _ (by decide)⟩
  have sum := Int.mul_fdiv_add_fmod seconds 86400
  have bounds := date_of_day_bounds (seconds.fdiv 86400)
  obtain ⟨valid, counted⟩ := date_of_day_in_calendar (seconds.fdiv 86400)
  have inDay : time / 3600 < 24 ∧ time / 60 % 60 < 60 ∧ time % 60 < 60 := by omega
  simp only [format, ← timeEq]
  rw [of_text_of_parts (by omega) (by omega) (by omega) (by omega) (by omega), secondsOf?,
    if_pos ⟨valid, inDay⟩, counted]
  exact congrArg some (by omega)

end SignedTx.Instant
