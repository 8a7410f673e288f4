import Mathlib.Data.List.Induction
import SignedTx.Text.Digits

/-!
# Decimal text and its value

The decimal text of a number consists of digits and denotes the number, also with zeros in front of
it, and no other text denotes it. A run of digits is read as a whole, so a value is known from any
text that denotes it.
-/

set_option autoImplicit false

namespace SignedTx.Digits

theorem is_decimal_eq_is_digit (c : Char) : isDecimal c = c.isDigit := by
  simp only [isDecimal, Char.isDigit, Char.le_def, UInt32.le_iff_toNat_le, ge_iff_le]

theorem value_of_is_digit {c : Char} (digit : c.isDigit = true) :
    valueIn? 10 c = some (c.toNat - 48) := by
  have bounds : '0' ≤ c ∧ c ≤ '9' := by
    rw [← is_decimal_eq_is_digit] at digit
    simpa [isDecimal] using digit
  have small : c.toNat - 48 < 10 := by
    have upper : c.toNat ≤ 57 := bounds.2
    omega
  rw [valueIn?, value?, if_pos bounds]
  simpa using small

theorem fold_from_of_digits {text : List Char} (digits : ∀ c ∈ text, c.isDigit = true)
    (value : Nat) : foldFrom? 10 value text = some (Nat.ofDigitChars 10 text value) := by
  induction text generalizing value with
  | nil => rfl
  | cons c rest induction =>
      rw [foldFrom?, value_of_is_digit (digits c (by simp)), Nat.ofDigitChars_cons]
      exact induction (fun other member => digits other (by simp [member])) _

theorem decimal_of_digits {text : List Char} (digits : ∀ c ∈ text, c.isDigit = true)
    (some_digit : text ≠ []) : decimal? text = some (Nat.ofDigitChars 10 text 0) := by
  rw [decimal?, if_neg (by simpa using some_digit), toNat?, fold_from_of_digits digits]

/-! ## The text of a number -/

theorem is_digit_of_mem_decimal {c : Char} {n : Nat} (member : c ∈ decimal n) :
    c.isDigit = true :=
  Nat.isDigit_of_mem_toDigits (by decide) (by decide) member

theorem decimal_ne_nil (n : Nat) : decimal n ≠ [] := Nat.toDigits_ne_nil

theorem length_decimal_le {m n : Nat} (le : m ≤ n) :
    (decimal m).length ≤ (decimal n).length := by
  have positive : 0 < (decimal n).length := List.length_pos_iff.mpr (decimal_ne_nil n)
  have bound : n < 10 ^ (decimal n).length :=
    (Nat.length_toDigits_le_iff (by decide) positive).mp (Nat.le_refl _)
  exact (Nat.length_toDigits_le_iff (by decide) positive).mpr (Nat.lt_of_le_of_lt le bound)

/-- Decimal text with zeros in front. -/
def zeroLed (zeros n : Nat) : List Char := List.replicate zeros '0' ++ decimal n

theorem is_digit_of_mem_zero_led {c : Char} {zeros n : Nat} (member : c ∈ zeroLed zeros n) :
    c.isDigit = true := by
  rcases List.mem_append.mp member with zero | digit
  · rw [(List.mem_replicate.mp zero).2]
    decide
  · exact is_digit_of_mem_decimal digit

theorem of_digit_chars_zero_led (zeros n : Nat) : Nat.ofDigitChars 10 (zeroLed zeros n) 0 = n := by
  rw [zeroLed, Nat.ofDigitChars_append, Nat.ofDigitChars_replicate_zero, Nat.mul_zero]
  exact Nat.ofDigitChars_ten_toDigits

theorem decimal_zero_led (zeros n : Nat) : decimal? (zeroLed zeros n) = some n := by
  have some_digit : zeroLed zeros n ≠ [] := by
    intro empty
    exact decimal_ne_nil n (List.append_eq_nil_iff.mp empty).2
  rw [decimal_of_digits (fun _ member => is_digit_of_mem_zero_led member) some_digit,
    of_digit_chars_zero_led]

theorem decimal_decimal (n : Nat) : decimal? (decimal n) = some n := decimal_zero_led 0 n

theorem zero_led_injective {leftZeros rightZeros left right : Nat}
    (same : zeroLed leftZeros left = zeroLed rightZeros right) : left = right := by
  have values := congrArg (fun text => Nat.ofDigitChars 10 text 0) same
  simpa only [of_digit_chars_zero_led] using values

theorem digit_char_of_is_digit {c : Char} (digit : c.isDigit = true) :
    c.toNat - 48 < 10 ∧ Nat.digitChar (c.toNat - 48) = c := by
  have bounds : 48 ≤ c.toNat ∧ c.toNat ≤ 57 := by
    rw [← is_decimal_eq_is_digit, isDecimal, Bool.and_eq_true, decide_eq_true_eq,
      decide_eq_true_eq] at digit
    exact digit
  have small : c.toNat - 48 < 10 := by omega
  refine ⟨small, Char.toNat_inj.mp ?_⟩
  rw [Nat.toNat_digitChar_of_lt_ten small]
  omega

/-- The induction takes the last digit off. Before it are zeros and a number; where that number is
zero itself, it is one more zero in front of the last digit. -/
theorem zero_led_of_digits {text : List Char} (digits : ∀ c ∈ text, c.isDigit = true)
    (some_digit : text ≠ []) : ∃ zeros, text = zeroLed zeros (Nat.ofDigitChars 10 text 0) := by
  induction text using List.reverseRecOn with
  | nil => exact absurd rfl some_digit
  | append_singleton front c induction =>
      obtain ⟨small, char⟩ := digit_char_of_is_digit (digits c (by simp))
      have last : decimal (c.toNat - 48) = [c] := by
        rw [decimal, Nat.toDigits_of_lt_base small, char]
      have value : Nat.ofDigitChars 10 (front ++ [c]) 0 =
          10 * Nat.ofDigitChars 10 front 0 + (c.toNat - 48) := by
        rw [Nat.ofDigitChars_append, Nat.ofDigitChars_cons, Nat.ofDigitChars_nil]
        rfl
      rw [value]
      by_cases none_before : front = []
      · refine ⟨0, ?_⟩
        rw [none_before, Nat.ofDigitChars_nil, zeroLed, List.replicate_zero, Nat.mul_zero,
          Nat.zero_add, last]
      obtain ⟨zeros, frontEq⟩ := induction
        (fun d listed => digits d (List.mem_append_left _ listed)) none_before
      generalize Nat.ofDigitChars 10 front 0 = m at frontEq ⊢
      rw [frontEq]
      by_cases zero : m = 0
      · refine ⟨zeros + 1, ?_⟩
        rw [zero, Nat.mul_zero, Nat.zero_add, zeroLed, zeroLed, last, List.replicate_succ']
        rfl
      · refine ⟨zeros, ?_⟩
        have joined := Nat.toDigits_append_toDigits (by decide) (Nat.pos_of_ne_zero zero) small
        rw [zeroLed, zeroLed, decimal, decimal, ← joined, ← decimal, ← decimal, last,
          List.append_assoc]

end SignedTx.Digits
