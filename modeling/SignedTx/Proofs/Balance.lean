import Mathlib.Algebra.Group.Nat.Defs
import SignedTx.Balance
import SignedTx.Proofs.Text.Digits
import SignedTx.Proofs.Text.Front

/-!
# Texts of balances

A text denotes a value at a number of decimal places by positional notation alone: a numeral, or two
with a point between them, of which the second has no more digits than there are places. Reading
accepts exactly the texts that denote a balance. Formatting writes one of them, with every place
filled and no zero in front that could be left out, so two balances with one text are equal.
-/

set_option autoImplicit false

namespace SignedTx.Balance

/-- The digits of a balance, at least one of them before the decimal places. -/
def paddedDigits (places : Nat) (value : UInt64) : List Char :=
  Digits.zeroLed (places + 1 - (Digits.decimal value.toNat).length) value.toNat

/-- The number of whole digits. -/
def wholeLength (places : Nat) (value : UInt64) : Nat := (paddedDigits places value).length - places

theorem places_lt_length_padded (places : Nat) (value : UInt64) :
    places < (paddedDigits places value).length := by
  simp only [paddedDigits, Digits.zeroLed, List.length_append, List.length_replicate]
  omega

theorem format_eq_of_places {decimals : UInt8} (value : UInt64) (some_places : decimals.toNat ≠ 0) :
    format decimals value = String.ofList
      ((paddedDigits decimals.toNat value).take (wholeLength decimals.toNat value) ++
        '.' :: (paddedDigits decimals.toNat value).drop (wholeLength decimals.toNat value)) := by
  rw [format, if_neg some_places]
  rfl

theorem no_point_of_digits {text : List Char} (digits : ∀ c ∈ text, c.isDigit = true) :
    '.' ∉ text := by
  intro listed
  exact absurd (digits '.' listed) (by decide)

theorem split_of_no_point {whole : List Char} (digits : ∀ c ∈ whole, c.isDigit = true) :
    split whole = (whole, none) := by
  rw [split, Front.from_absent (no_point_of_digits digits)]

theorem split_at_point {whole fraction : List Char} (digits : ∀ c ∈ whole, c.isDigit = true) :
    split (whole ++ '.' :: fraction) = (whole, some fraction) := by
  have absent := no_point_of_digits digits
  rw [split, Front.from_mark absent, Front.before_mark absent]

theorem all_is_decimal {text : List Char} (digits : ∀ c ∈ text, c.isDigit = true) :
    text.all Digits.isDecimal = true := by
  rw [List.all_eq_true]
  intro c member
  rw [Digits.is_decimal_eq_is_digit]
  exact digits c member

theorem parse_of_whole {decimals : UInt8} {whole : List Char} {value : Nat}
    (digits : ∀ c ∈ whole, c.isDigit = true) (some_whole : whole ≠ [])
    (denoted : value? decimals.toNat whole [] = some value) (small : value < UInt64.size) :
    parse decimals (String.ofList whole) = .ok (UInt64.ofNat value) := by
  rw [parse, String.toList_ofList, split_of_no_point digits]
  simp [denoted, all_is_decimal digits, some_whole, small]

theorem parse_of_whole_and_fraction {decimals : UInt8} {whole fraction : List Char} {value : Nat}
    (whole_digits : ∀ c ∈ whole, c.isDigit = true)
    (fraction_digits : ∀ c ∈ fraction, c.isDigit = true) (some_whole : whole ≠ [])
    (some_fraction : fraction ≠ []) (fits : fraction.length ≤ decimals.toNat)
    (denoted : value? decimals.toNat whole fraction = some value) (small : value < UInt64.size) :
    parse decimals (String.ofList (whole ++ '.' :: fraction)) = .ok (UInt64.ofNat value) := by
  rw [parse, String.toList_ofList, split_at_point whole_digits]
  simp [denoted, all_is_decimal whole_digits, all_is_decimal fraction_digits, some_whole,
    some_fraction, fits, small]

theorem parse_format_of_no_places {decimals : UInt8} (none_places : decimals.toNat = 0)
    (value : UInt64) : parse decimals (format decimals value) = .ok value := by
  have denoted : value? decimals.toNat (Digits.decimal value.toNat) [] = some value.toNat := by
    simp [value?, none_places, Digits.decimal_decimal]
  rw [format, if_pos none_places, parse_of_whole (fun _ => Digits.is_digit_of_mem_decimal)
    (Digits.decimal_ne_nil _) denoted value.toNat_lt, UInt64.ofNat_toNat]

/-- Digits that are cut before their last places denote what they denote as a whole. -/
theorem parse_cut {decimals : UInt8} {text : List Char} {n : Nat}
    (digits : ∀ c ∈ text, c.isDigit = true) (some_places : decimals.toNat ≠ 0)
    (longer : decimals.toNat < text.length) (denoted : Digits.decimal? text = some n)
    (small : n < UInt64.size) :
    parse decimals (String.ofList (text.take (text.length - decimals.toNat) ++
      '.' :: text.drop (text.length - decimals.toNat))) = .ok (UInt64.ofNat n) := by
  have fractionLength : (text.drop (text.length - decimals.toNat)).length = decimals.toNat := by
    rw [List.length_drop]
    omega
  apply parse_of_whole_and_fraction
  · exact fun c member => digits c (List.mem_of_mem_take member)
  · exact fun c member => digits c (List.mem_of_mem_drop member)
  · intro empty
    have none_taken := congrArg List.length empty
    rw [List.length_take, List.length_nil] at none_taken
    omega
  · intro empty
    rw [empty] at fractionLength
    exact some_places fractionLength.symm
  · exact Nat.le_of_eq fractionLength
  · rw [value?, fractionLength, Nat.sub_self, List.replicate_zero, List.append_nil,
      List.take_append_drop]
    exact denoted
  · exact small

theorem parse_format (decimals : UInt8) (value : UInt64) :
    parse decimals (format decimals value) = .ok value := by
  by_cases none_places : decimals.toNat = 0
  · exact parse_format_of_no_places none_places value
  · have digits : ∀ c ∈ paddedDigits decimals.toNat value, c.isDigit = true :=
      fun _ => Digits.is_digit_of_mem_zero_led
    have longer := places_lt_length_padded decimals.toNat value
    have denoted : Digits.decimal? (paddedDigits decimals.toNat value) = some value.toNat :=
      Digits.decimal_zero_led _ value.toNat
    rw [format_eq_of_places value none_places, wholeLength,
      parse_cut digits none_places longer denoted value.toNat_lt, UInt64.ofNat_toNat]

theorem format_injective (decimals : UInt8) {left right : UInt64}
    (same : format decimals left = format decimals right) : left = right := by
  have leftParsed := parse_format decimals left
  rw [same, parse_format decimals right] at leftParsed
  exact (Except.ok.inj leftParsed).symm

/-! ## What a text denotes -/

/-- One decimal digit or more. -/
structure IsNumeral (text : List Char) : Prop where
  some_digit : text ≠ []
  digits : ∀ c ∈ text, c.isDigit = true

/-- The value of a text in smallest units: a numeral counts whole ones, and a second numeral behind
a point, of no more digits than there are places, counts parts of one. -/
inductive Denotes (places : Nat) : (text : List Char) → (value : Nat) → Prop
  | whole {whole : List Char} (numeral : IsNumeral whole) :
      Denotes places whole (Nat.ofDigitChars 10 whole 0 * 10 ^ places)
  | pointed {whole fraction : List Char} (numeral : IsNumeral whole) (behind : IsNumeral fraction)
      (fits : fraction.length ≤ places) :
      Denotes places (whole ++ '.' :: fraction)
        (Nat.ofDigitChars 10 whole 0 * 10 ^ places +
          Nat.ofDigitChars 10 fraction 0 * 10 ^ (places - fraction.length))

/-- The zeros that are filled in behind the fraction give each digit its place. -/
theorem value_of_digits {places : Nat} {whole fraction : List Char} (numeral : IsNumeral whole)
    (digits : ∀ c ∈ fraction, c.isDigit = true) (fits : fraction.length ≤ places) :
    value? places whole fraction = some (Nat.ofDigitChars 10 whole 0 * 10 ^ places +
      Nat.ofDigitChars 10 fraction 0 * 10 ^ (places - fraction.length)) := by
  let zeros := List.replicate (places - fraction.length) '0'
  have all_digits : ∀ c ∈ whole ++ fraction ++ zeros, c.isDigit = true := by
    intro c member
    rw [List.mem_append, List.mem_append] at member
    rcases member with (inWhole | inFraction) | zero
    · exact numeral.digits c inWhole
    · exact digits c inFraction
    · rw [(List.mem_replicate.mp zero).2]
      decide
  have some_digit : whole ++ fraction ++ zeros ≠ [] := by
    intro empty
    exact numeral.some_digit (List.append_eq_nil_iff.mp (List.append_eq_nil_iff.mp empty).1).1
  have filled : places - fraction.length + fraction.length = places := Nat.sub_add_cancel fits
  rw [value?, Digits.decimal_of_digits all_digits some_digit, Nat.ofDigitChars_append,
    Nat.ofDigitChars_replicate_zero, Nat.ofDigitChars_append,
    @Nat.ofDigitChars_eq_ofDigitChars_zero fraction, Nat.mul_add, ← Nat.mul_assoc, ← Nat.pow_add,
    filled, Nat.mul_comm _ (Nat.ofDigitChars 10 whole 0),
    Nat.mul_comm _ (Nat.ofDigitChars 10 fraction 0)]

theorem text_of_split {text whole : List Char} {fraction? : Option (List Char)}
    (cut : split text = (whole, fraction?)) :
    text = whole ++ fraction?.elim [] ('.' :: ·) := by
  rw [split] at cut
  split at cut
  · cases cut
    exact (List.append_nil text).symm
  · rename_i point fraction behind
    cases cut
    exact Front.cut_of_from behind

/-! ## Reading -/

theorem parse_of_denotes {decimals : UInt8} {text : String} {value : UInt64}
    (denotes : Denotes decimals.toNat text.toList value.toNat) :
    parse decimals text = .ok value := by
  have small : value.toNat < UInt64.size := value.toNat_lt
  have number : UInt64.ofNat value.toNat = value := UInt64.ofNat_toNat
  generalize denoted : value.toNat = n at denotes small number
  generalize chars : text.toList = characters at denotes
  rw [← @String.ofList_toList text, chars, ← number]
  cases denotes with
  | whole numeral =>
      refine parse_of_whole numeral.digits numeral.some_digit ?_ small
      rw [value_of_digits numeral (by simp) (Nat.zero_le _), Nat.ofDigitChars_nil, Nat.zero_mul,
        Nat.add_zero]
  | pointed numeral behind fits =>
      exact parse_of_whole_and_fraction numeral.digits behind.digits numeral.some_digit
        behind.some_digit fits (value_of_digits numeral behind.digits fits) small

theorem denotes_of_parse {decimals : UInt8} {text : String} {value : UInt64}
    (parsed : parse decimals text = .ok value) :
    Denotes decimals.toNat text.toList value.toNat := by
  have digits_of_all : ∀ {part : List Char}, part.all Digits.isDecimal = true →
      ∀ c ∈ part, c.isDigit = true := by
    intro part all c member
    rw [← Digits.is_decimal_eq_is_digit]
    exact List.all_eq_true.mp all c member
  cases cut : split text.toList with
  | mk whole fraction? =>
      simp only [parse, cut] at parsed
      split at parsed
      case h_2 => cases parsed
      rename_i n found
      split at parsed
      case isFalse => cases parsed
      rename_i small
      cases parsed
      rw [Option.ite_none_right_eq_some] at found
      obtain ⟨formed, valued⟩ := found
      simp only [Bool.and_eq_true, decide_eq_true_eq] at formed
      obtain ⟨⟨⟨⟨some_whole, wholeAll⟩, fractionAll⟩, fits⟩, some_fraction⟩ := formed
      have numeral : IsNumeral whole := ⟨by simpa using some_whole, digits_of_all wholeAll⟩
      have exact_value := value_of_digits numeral (digits_of_all fractionAll) fits
      rw [valued, Option.some.injEq] at exact_value
      rw [UInt64.toNat_ofNat_of_lt' small, text_of_split cut, exact_value]
      cases fraction? with
      | none => simpa using @Denotes.whole decimals.toNat whole numeral
      | some fraction =>
          have behind : IsNumeral fraction := by
            refine ⟨?_, digits_of_all fractionAll⟩
            intro empty
            exact some_fraction (congrArg some empty)
          exact .pointed numeral behind fits

theorem invalid_of_parse_error {decimals : UInt8} {text : String} {e : FormatError}
    (refused : parse decimals text = .error e) : e = .invalidBalance text := by
  simp only [parse] at refused
  split at refused
  · split at refused
    · cases refused
    · exact (Except.error.inj refused).symm
  · exact (Except.error.inj refused).symm

/-! ## Formatting -/

/-- A numeral whose first digit is a zero only if it is the only one. -/
structure IsPlainWhole (whole : List Char) : Prop extends IsNumeral whole where
  unpadded : whole.head? = some '0' → whole = ['0']

/-- A whole part without a zero that could be left out, and as many digits behind the point as there
are places; without places there is no point. -/
inductive IsFixedPoint : (places : Nat) → (text : List Char) → Prop
  | whole {whole : List Char} (plain : IsPlainWhole whole) : IsFixedPoint 0 whole
  | pointed {whole fraction : List Char} (plain : IsPlainWhole whole)
      (behind : IsNumeral fraction) : IsFixedPoint fraction.length (whole ++ '.' :: fraction)

/-- If more digits stood behind a zero, they would denote the number by themselves, and so contain
its decimal text, of which they are only a part. -/
theorem is_plain_decimal (n : Nat) : IsPlainWhole (Digits.decimal n) where
  some_digit := Digits.decimal_ne_nil n
  digits _ := Digits.is_digit_of_mem_decimal
  unpadded := by
    intro zero
    obtain ⟨rest, text⟩ := List.head?_eq_some_iff.mp zero
    rw [text]
    by_contra longer
    have some_digit : rest ≠ [] := fun empty => longer (by rw [empty])
    have digits : ∀ c ∈ rest, c.isDigit = true := by
      intro c member
      have inText : c ∈ Digits.decimal n := text ▸ List.mem_cons_of_mem _ member
      exact Digits.is_digit_of_mem_decimal inText
    have value : Nat.ofDigitChars 10 rest 0 = n := by
      have whole : Nat.ofDigitChars 10 (Digits.decimal n) 0 = n := Nat.ofDigitChars_ten_toDigits
      rwa [text, Nat.ofDigitChars_cons] at whole
    obtain ⟨zeros, restEq⟩ := Digits.zero_led_of_digits digits some_digit
    rw [value, Digits.zeroLed] at restEq
    have lengths := congrArg List.length text
    rw [restEq, List.length_cons, List.length_append] at lengths
    omega

theorem is_plain_whole_part {places : Nat} (some_places : places ≠ 0) (value : UInt64) :
    IsPlainWhole ((paddedDigits places value).take (wholeLength places value)) := by
  have longer := places_lt_length_padded places value
  have plain := is_plain_decimal value.toNat
  rw [wholeLength]
  by_cases padded : (Digits.decimal value.toNat).length ≤ places
  -- The zeros reach up to the point and one place over it.
  · obtain ⟨zeros, count⟩ : ∃ zeros, places + 1 - (Digits.decimal value.toNat).length = zeros + 1 :=
      ⟨places - (Digits.decimal value.toNat).length, by omega⟩
    have one : (paddedDigits places value).length - places = 1 := by
      rw [paddedDigits, Digits.zeroLed, List.length_append, List.length_replicate]
      omega
    have whole : (paddedDigits places value).take 1 = ['0'] := by
      rw [paddedDigits, count, Digits.zeroLed, List.replicate_succ]
      rfl
    rw [one, whole]
    exact ⟨⟨by simp, by simp⟩, fun _ => rfl⟩
  · have unpadded : paddedDigits places value = Digits.decimal value.toNat := by
      rw [paddedDigits, Nat.sub_eq_zero_of_le (by omega), Digits.zeroLed, List.replicate_zero,
        List.nil_append]
    rw [unpadded] at longer ⊢
    have some_whole : (Digits.decimal value.toNat).length - places ≠ 0 := by omega
    refine ⟨⟨?_, fun c member => plain.digits c (List.mem_of_mem_take member)⟩, ?_⟩
    · rw [ne_eq, List.take_eq_nil_iff, not_or]
      exact ⟨some_whole, plain.some_digit⟩
    · rw [List.head?_take, if_neg some_whole]
      intro zero
      rw [plain.unpadded zero, List.length_singleton] at longer
      omega

theorem is_fixed_point_format (decimals : UInt8) (value : UInt64) :
    IsFixedPoint decimals.toNat (format decimals value).toList := by
  by_cases none_places : decimals.toNat = 0
  · rw [format, if_pos none_places, String.toList_ofList, none_places]
    exact .whole (is_plain_decimal value.toNat)
  · have longer := places_lt_length_padded decimals.toNat value
    rw [format_eq_of_places value none_places, String.toList_ofList]
    have count : ((paddedDigits decimals.toNat value).drop
        (wholeLength decimals.toNat value)).length = decimals.toNat := by
      rw [List.length_drop, wholeLength]
      omega
    have behind : IsNumeral ((paddedDigits decimals.toNat value).drop
        (wholeLength decimals.toNat value)) := by
      constructor
      · intro empty
        rw [empty] at count
        exact none_places count.symm
      · intro c member
        exact Digits.is_digit_of_mem_zero_led (List.mem_of_mem_drop member)
    have fixed := IsFixedPoint.pointed (is_plain_whole_part none_places value) behind
    rwa [count] at fixed

/-- A text is read as a balance exactly if it denotes the balance, a number below 2⁶⁴, and every
other text is refused by name. A balance is written with every place behind the point filled and no
superfluous zero before it, and is read back. -/
theorem balance_texts_are_exact (decimals : UInt8) :
    (∀ text value, parse decimals text = .ok value ↔
      Denotes decimals.toNat text.toList value.toNat) ∧
      (∀ text, (∀ value : UInt64, ¬ Denotes decimals.toNat text.toList value.toNat) →
        parse decimals text = .error (.invalidBalance text)) ∧
      ∀ value, IsFixedPoint decimals.toNat (format decimals value).toList ∧
        parse decimals (format decimals value) = .ok value := by
  refine ⟨fun _ _ => ⟨denotes_of_parse, parse_of_denotes⟩, ?_, ?_⟩
  · intro text other
    cases parsed : parse decimals text with
    | ok value => exact absurd (denotes_of_parse parsed) (other value)
    | error e => rw [invalid_of_parse_error parsed]
  · intro value
    exact ⟨is_fixed_point_format decimals value, parse_format decimals value⟩

/-- The largest balance is read with a zero too many before the point and is written without it. The
next number is refused, and so are a whole unit where no balance is as large as one and a point with
nothing behind it. -/
theorem largest_balance_and_what_is_next_to_it :
    parse 9 "018446744073.709551615" = .ok 18446744073709551615 ∧
      parse 9 "18446744073.709551616" = .error (.invalidBalance "18446744073.709551616") ∧
      parse 255 "1" = .error (.invalidBalance "1") ∧
      parse 9 "1." = .error (.invalidBalance "1.") ∧
      IsFixedPoint 255 (format 255 18446744073709551615).toList ∧
      parse 255 (format 255 18446744073709551615) = .ok 18446744073709551615 := by
  obtain ⟨exactly, refused, -⟩ := balance_texts_are_exact 9
  obtain ⟨-, refusedWide, written⟩ := balance_texts_are_exact 255
  have largest : Denotes 9 "018446744073.709551615".toList 18446744073709551615 := by
    have numeral : IsNumeral "018446744073".toList := ⟨by decide, List.all_eq_true.mp rfl⟩
    have behind : IsNumeral "709551615".toList := ⟨by decide, List.all_eq_true.mp rfl⟩
    exact .pointed numeral behind (by decide)
  have unread : ∀ {decimals : UInt8} {text : String}, (parse decimals text).toOption = none →
      ∀ value : UInt64, parse decimals text ≠ .ok value := by
    intro decimals text none_read value read
    rw [read] at none_read
    cases none_read
  refine ⟨(exactly _ _).mpr largest, ?_, ?_, ?_, written _⟩
  · exact refused _ fun value denotes =>
      unread (by decide +kernel) value ((exactly _ value).mpr denotes)
  · exact refusedWide _ fun value denotes =>
      unread (by decide +kernel) value (parse_of_denotes denotes)
  · exact refused _ fun value denotes =>
      unread (by decide +kernel) value ((exactly _ value).mpr denotes)

end SignedTx.Balance
