import Mathlib.Data.List.Forall2
import Mathlib.Data.Nat.Digits.Defs
import SignedTx.Proofs.Outcome
import SignedTx.Proofs.Text.Digits
import SignedTx.Proofs.Text.Hex

/-!
# What the readers of digits accept

A run of characters denotes a number in a base if each of them is a digit of the base, and then the
number is the digits' value in that base. Octets in hexadecimal are pairs of digits. The readers
accept exactly such texts: numbers with at least one digit, octets behind a marker or without one.
-/

set_option autoImplicit false

namespace SignedTx

namespace Digits

/-- The characters are digits of the base, highest place first, and denote the number. -/
def Spells (base : Nat) (text : List Char) (n : Nat) : Prop :=
  ∃ digits, List.Forall₂ (fun c digit => valueIn? base c = some digit) text digits ∧
    n = Nat.ofDigits base digits.reverse

theorem Spells.valid {base n : Nat} {text : List Char} (spells : Spells base text n) {c : Char}
    (listed : c ∈ text) : (valueIn? base c).isSome = true := by
  obtain ⟨digits, denoted, -⟩ := spells
  induction denoted with
  | nil => cases listed
  | cons here _ induction =>
      rcases List.mem_cons.mp listed with rfl | later
      · rw [here]
        rfl
      · exact induction later

theorem fold_from_eq_some {base value n : Nat} {text : List Char} :
    foldFrom? base value text = some n ↔
      ∃ digits, List.Forall₂ (fun c digit => valueIn? base c = some digit) text digits ∧
        n = Nat.ofDigits base digits.reverse + base ^ text.length * value := by
  induction text generalizing value with
  | nil => simp [foldFrom?, eq_comm]
  | cons c rest induction =>
      -- The digit read first weighs as much as the digits behind it have places.
      have weighed : ∀ (digit : Nat) (digits : List Nat), digits.length = rest.length →
          Nat.ofDigits base digits.reverse + base ^ rest.length * (base * value + digit) =
            Nat.ofDigits base (digit :: digits).reverse + base ^ (c :: rest).length * value := by
        intro digit digits length
        rw [Nat.ofDigits_reverse_cons, length, List.length_cons, Nat.pow_succ, Nat.mul_add,
          Nat.mul_assoc]
        omega
      rw [foldFrom?]
      cases read : valueIn? base c with
      | none => simp [List.forall₂_cons_left_iff, read]
      | some digit =>
          change foldFrom? base (base * value + digit) rest = some n ↔ _
          rw [induction]
          constructor
          · intro parts
            obtain ⟨digits, denoted, same⟩ := parts
            refine ⟨digit :: digits, .cons read denoted, ?_⟩
            rw [same, weighed digit digits denoted.length_eq.symm]
          · intro parts
            obtain ⟨digits, denoted, same⟩ := parts
            cases denoted with
            | cons here later =>
                cases read.symm.trans here
                refine ⟨_, later, ?_⟩
                rw [same, weighed _ _ later.length_eq.symm]

theorem to_nat_eq_some {base n : Nat} {text : List Char} :
    toNat? base text = some n ↔ Spells base text n := by
  rw [toNat?, fold_from_eq_some]
  simp only [Nat.mul_zero, Nat.add_zero, Spells]

/-- No underscore is a digit, so dropping them takes none away. -/
theorem spaced_of_spells {base n : Nat} {text : List Char} (spells : Spells base text n) :
    spacedNat? base text = some n := by
  have plain : text.filter (· ≠ '_') = text := by
    rw [List.filter_eq_self]
    intro c listed
    have digit := spells.valid listed
    rw [decide_eq_true_eq]
    rintro rfl
    cases digit
  rw [spacedNat?, plain, to_nat_eq_some]
  exact spells

theorem decimal_eq_some {n : Nat} {text : List Char} :
    decimal? text = some n ↔ text ≠ [] ∧ Spells 10 text n := by
  rw [decimal?]
  cases text with
  | nil => simp
  | cons c rest => simp [to_nat_eq_some]

/-- Values count from the character zero, and after nine from the letter a in either case. -/
theorem value_cases {c : Char} {digit : Nat} (valued : value? c = some digit) :
    48 ≤ c.toNat ∧ c.toNat ≤ 57 ∨ 97 ≤ c.toNat ∧ digit = c.toNat - 87 ∨
      65 ≤ c.toNat ∧ digit = c.toNat - 55 := by
  rw [value?] at valued
  split at valued
  · rename_i between
    exact .inl between
  split at valued
  · rename_i between
    cases valued
    exact .inr (.inl ⟨between.1, rfl⟩)
  split at valued
  · rename_i between
    cases valued
    exact .inr (.inr ⟨between.1, rfl⟩)
  · cases valued

/-- A digit of a base up to sixteen is a decimal digit or one of the first six letters. -/
theorem bounds_of_digit {base digit : Nat} {c : Char} (bounded : base ≤ 16)
    (read : valueIn? base c = some digit) : digit < base ∧
      (48 ≤ c.toNat ∧ c.toNat ≤ 57 ∨ 97 ≤ c.toNat ∧ c.toNat ≤ 102 ∨
        65 ≤ c.toNat ∧ c.toNat ≤ 70) := by
  rw [valueIn?, Option.filter_eq_some_iff, decide_eq_true_eq] at read
  obtain ⟨valued, small⟩ := read
  have places := value_cases valued
  exact ⟨small, by omega⟩

theorem is_digit_of_value {c : Char} {digit : Nat} (read : valueIn? 10 c = some digit) :
    c.isDigit = true := by
  rw [valueIn?, Option.filter_eq_some_iff, decide_eq_true_eq] at read
  obtain ⟨valued, small⟩ := read
  have places := value_cases valued
  have between : 48 ≤ c.toNat ∧ c.toNat ≤ 57 := by omega
  rw [← is_decimal_eq_is_digit, isDecimal, Bool.and_eq_true, decide_eq_true_eq, decide_eq_true_eq]
  exact between

/-- A text denotes a number in decimal only as the number's own text with zeros in front of it. -/
theorem decimal_eq_some_iff_zero_led {n : Nat} {text : List Char} :
    decimal? text = some n ↔ ∃ zeros, text = zeroLed zeros n := by
  constructor
  · intro read
    obtain ⟨some_digit, spells⟩ := decimal_eq_some.1 read
    have digits : ∀ c ∈ text, c.isDigit = true := by
      intro c listed
      obtain ⟨digit, value⟩ := Option.isSome_iff_exists.mp (spells.valid listed)
      exact is_digit_of_value value
    have value := decimal_of_digits digits some_digit
    rw [read, Option.some.injEq] at value
    rw [value]
    exact zero_led_of_digits digits some_digit
  · intro parts
    obtain ⟨zeros, rfl⟩ := parts
    exact decimal_zero_led zeros n

/-! ## The text of a number in any base -/

theorem Spells.push {base n digit : Nat} {text : List Char} {c : Char}
    (spells : Spells base text n) (here : valueIn? base c = some digit) :
    Spells base (text ++ [c]) (base * n + digit) := by
  obtain ⟨digits, denoted, rfl⟩ := spells
  refine ⟨digits ++ [digit], List.rel_append denoted (.cons here .nil), ?_⟩
  rw [List.reverse_append, List.reverse_singleton, List.singleton_append, Nat.ofDigits_cons,
    Nat.add_comm]

theorem value_in_digit_char {base digit : Nat} (bounded : base ≤ 16) (small : digit < base) :
    valueIn? base (Nat.digitChar digit) = some digit := by
  have each : ∀ digit < 16, value? (Nat.digitChar digit) = some digit := by
    decide
  rw [valueIn?, each digit (Nat.lt_of_lt_of_le small bounded), Option.filter_some,
    if_pos (decide_eq_true small)]

/-- The induction takes the last digit off, which is how the text is made. -/
theorem spells_to_digits {base : Nat} (proper : 1 < base) (bounded : base ≤ 16) (n : Nat) :
    Spells base (Nat.toDigits base n) n := by
  induction n using Nat.strongRecOn with
  | ind n induction =>
      by_cases small : n < base
      · rw [Nat.toDigits_of_lt_base small]
        refine ⟨[n], .cons (value_in_digit_char bounded small) .nil, ?_⟩
        rw [List.reverse_singleton, Nat.ofDigits_singleton]
      · have large : base ≤ n := Nat.le_of_not_lt small
        have front := induction (n / base) (Nat.div_lt_self (by omega) proper)
        have last := value_in_digit_char bounded (Nat.mod_lt n (by omega))
        have joined := front.push last
        rw [Nat.div_add_mod] at joined
        rw [Nat.toDigits_of_base_le proper large]
        exact joined

end Digits

namespace Hex

/-! ## Octets -/

/-- The characters are two digits for each octet, the higher one first. -/
inductive Spells : List Char → List UInt8 → Prop
  | nil : Spells [] []
  | cons {high low : Char} {upper lower : Nat} {text : List Char} {octets : List UInt8}
      (first : Digits.valueIn? 16 high = some upper) (second : Digits.valueIn? 16 low = some lower)
      (later : Spells text octets) :
      Spells (high :: low :: text) (UInt8.ofNat (16 * upper + lower) :: octets)

theorem Spells.length_eq {text : List Char} {octets : List UInt8} (spells : Spells text octets) :
    text.length = 2 * octets.length := by
  induction spells with
  | nil => rfl
  | cons _ _ _ induction =>
      simp only [List.length_cons]
      omega

theorem Spells.digits {text : List Char} {octets : List UInt8} (spells : Spells text octets)
    {c : Char} (listed : c ∈ text) : ∃ digit, Digits.valueIn? 16 c = some digit := by
  induction spells with
  | nil => cases listed
  | cons first second _ induction =>
      simp only [List.mem_cons] at listed
      rcases listed with rfl | rfl | deeper
      · exact ⟨_, first⟩
      · exact ⟨_, second⟩
      · exact induction deeper

theorem ascii_of_digit {c : Char} {digit : Nat} (read : Digits.valueIn? 16 c = some digit) :
    c.toNat < 128 := by
  have bounds := (Digits.bounds_of_digit (Nat.le_refl 16) read).2
  omega

theorem to_nat_char_of_octet (byte : UInt8) : (Char.ofNat byte.toNat).toNat = byte.toNat := by
  have valid : byte.toNat.isValidChar := .inl (by
    have bounded := byte.toNat_lt
    omega)
  rw [Char.ofNat, dif_pos valid]
  rfl

/-- An octet that is read as a digit is the octet of that digit's character. -/
theorem nibble_eq_ok {byte : UInt8} {index digit : Nat} :
    nibble byte index = .ok digit ↔
      ∃ c : Char, byte = UInt8.ofNat c.toNat ∧ Digits.valueIn? 16 c = some digit := by
  rw [nibble]
  constructor
  · intro found
    cases read : Digits.valueIn? 16 (Char.ofNat byte.toNat) with
    | none =>
        rw [read] at found
        cases found
    | some value =>
        rw [read] at found
        cases found
        refine ⟨_, ?_, read⟩
        rw [to_nat_char_of_octet, UInt8.ofNat_toNat]
  · intro parts
    obtain ⟨c, rfl, read⟩ := parts
    have ascii := ascii_of_digit read
    rw [UInt8.toNat_ofNat', Nat.mod_eq_of_lt (by omega), Char.ofNat_toNat, read]

theorem decode_pairs_of_spells {text : List Char} {octets : List UInt8}
    (spells : Spells text octets) (index : Nat) :
    decodePairs index (text.map fun c => UInt8.ofNat c.toNat) = .ok octets := by
  induction spells generalizing index with
  | nil => rfl
  | cons first second _ induction =>
      rw [List.map_cons, List.map_cons, decodePairs, nibble_eq_ok.2 ⟨_, rfl, first⟩,
        nibble_eq_ok.2 ⟨_, rfl, second⟩, induction]
      rfl

theorem spells_of_decode_pairs {bytes octets : List UInt8} {index : Nat}
    (even : bytes.length % 2 = 0) (found : decodePairs index bytes = .ok octets) :
    ∃ text, bytes = text.map (fun c => UInt8.ofNat c.toNat) ∧ Spells text octets := by
  induction index, bytes using decodePairs.induct generalizing octets with
  | case1 index high low rest induction =>
      rw [decodePairs] at found
      simp only [Outcome.bind_eq_ok_iff] at found
      obtain ⟨upper, first, lower, second, others, later, same⟩ := found
      cases same
      obtain ⟨c, rfl, upperRead⟩ := nibble_eq_ok.1 first
      obtain ⟨d, rfl, lowerRead⟩ := nibble_eq_ok.1 second
      obtain ⟨text, rfl, spells⟩ := induction
        (by simp only [List.length_cons] at even; omega) later
      exact ⟨c :: d :: text, rfl, .cons upperRead lowerRead spells⟩
  | case2 rest index short =>
      cases rest with
      | nil =>
          cases found
          exact ⟨[], rfl, .nil⟩
      | cons high others =>
          cases others with
          | nil => simp at even
          | cons low later => exact (short high low later rfl).elim

theorem decode_eq_ok {bytes octets : List UInt8} : decode bytes = .ok octets ↔
    ∃ text, bytes = text.map (fun c => UInt8.ofNat c.toNat) ∧ Spells text octets := by
  rw [decode, Outcome.refusal_eq_ok_iff]
  constructor
  · intro parts
    obtain ⟨even, decoded⟩ := parts
    exact spells_of_decode_pairs (by omega) decoded
  · intro parts
    obtain ⟨text, rfl, spells⟩ := parts
    refine ⟨?_, decode_pairs_of_spells spells 0⟩
    rw [List.length_map, spells.length_eq]
    omega

/-! ## Marked texts -/

/-- The text is two digits for each octet, by themselves or behind a zero and one of the marks. -/
def Denotes (marks : List Char) (text : String) (octets : List UInt8) : Prop :=
  ∃ digits, Spells digits octets ∧
    (text.toList = digits ∨ ∃ mark ∈ marks, text.toList = '0' :: mark :: digits)

theorem utf8_of_chars {text : String} {chars : List Char} (ascii : ∀ c ∈ chars, c.toNat < 128) :
    utf8 text = chars.map (fun c => UInt8.ofNat c.toNat) ↔ text.toList = chars := by
  rw [← utf8_of_ascii ascii, utf8_injective.eq_iff, ← String.toList_inj, String.toList_ofList]

theorem Spells.ascii {digits : List Char} {octets : List UInt8} (spells : Spells digits octets) :
    ∀ c ∈ digits, c.toNat < 128 := by
  intro c listed
  obtain ⟨digit, read⟩ := spells.digits listed
  exact ascii_of_digit read

theorem Spells.marked_ascii {digits : List Char} {octets : List UInt8} {mark : Char}
    (spells : Spells digits octets) (ascii : mark.toNat < 128) :
    ∀ c ∈ '0' :: mark :: digits, c.toNat < 128 := by
  intro c listed
  simp only [List.mem_cons] at listed
  rcases listed with rfl | rfl | deeper
  · decide
  · exact ascii
  · exact spells.ascii c deeper

/-- The marks are no digits, so a text that starts with one is not read without it. -/
theorem Spells.drop_marker {digits : List Char} {octets : List UInt8}
    (spells : Spells digits octets) :
    (∀ rest, digits.map (fun c => UInt8.ofNat c.toNat) ≠ 48 :: 120 :: rest) ∧
      dropMarker (digits.map fun c => UInt8.ofNat c.toNat) =
        digits.map fun c => UInt8.ofNat c.toNat := by
  cases spells with
  | nil => exact ⟨by simp, rfl⟩
  | @cons _ low _ _ _ _ _ second _ =>
      have bounds := (Digits.bounds_of_digit (Nat.le_refl 16) second).2
      have number : (UInt8.ofNat low.toNat).toNat = low.toNat := by
        rw [UInt8.toNat_ofNat']
        omega
      have small : UInt8.ofNat low.toNat ≠ 120 := by
        intro same
        rw [same] at number
        change 120 = low.toNat at number
        omega
      have capital : UInt8.ofNat low.toNat ≠ 88 := by
        intro same
        rw [same] at number
        change 88 = low.toNat at number
        omega
      constructor
      · intro rest same
        rw [List.map_cons, List.map_cons, List.cons.injEq, List.cons.injEq] at same
        exact small same.2.1
      · rw [List.map_cons, List.map_cons]
        unfold dropMarker
        split
        · rename_i same
          exact absurd (List.cons.inj (List.cons.inj same).2).1 small
        · rename_i same
          exact absurd (List.cons.inj (List.cons.inj same).2).1 capital
        · rfl

theorem decode_marked_eq_ok {text : String} {octets : List UInt8} :
    decodeMarked text = .ok octets ↔ Denotes ['x'] text octets := by
  constructor
  · intro found
    unfold decodeMarked at found
    split at found
    · rename_i rest split
      obtain ⟨digits, rfl, spells⟩ := decode_eq_ok.1 found
      refine ⟨digits, spells, .inr ⟨'x', by simp, ?_⟩⟩
      exact (utf8_of_chars (spells.marked_ascii (by decide))).mp split
    · obtain ⟨digits, split, spells⟩ := decode_eq_ok.1 found
      exact ⟨digits, spells, .inl ((utf8_of_chars spells.ascii).mp split)⟩
  · intro parts
    obtain ⟨digits, spells, plain | ⟨mark, listed, marked⟩⟩ := parts
    · rw [← utf8_of_chars spells.ascii] at plain
      unfold decodeMarked
      rw [plain]
      split
      · rename_i same
        exact absurd same (spells.drop_marker.1 _)
      · exact decode_eq_ok.2 ⟨digits, rfl, spells⟩
    · rw [List.mem_singleton] at listed
      subst listed
      rw [← utf8_of_chars (spells.marked_ascii (by decide))] at marked
      unfold decodeMarked
      rw [marked]
      exact decode_eq_ok.2 ⟨digits, rfl, spells⟩

theorem decode_fixed_eq_ok_iff {n : Nat} {text : String} {value : Octets n} :
    decodeFixed n text = .ok value ↔ (utf8 text).length % 2 = 0 ∧
      (dropMarker (utf8 text)).length = 2 * n ∧
      decodePairs 0 (dropMarker (utf8 text)) = .ok value.toList := by
  simp only [decodeFixed, Outcome.refusal_eq_ok_iff, ne_eq, not_not, Nat.mod_two_not_eq_one]
  apply and_congr_right
  intro _
  apply and_congr_right
  intro _
  cases decoded : decodePairs 0 (dropMarker (utf8 text)) with
  | error e => cases e <;> simp
  | ok octets =>
      rw [Except.ok.injEq, @eq_comm _ octets, ← Octets.ofList?_eq_some_iff]
      cases taken : Octets.ofList? n octets with
      | some found => simp [taken]
      | none => simp [taken]

theorem drop_marker_cases (bytes : List UInt8) : bytes = dropMarker bytes ∨
    bytes = 48 :: 120 :: dropMarker bytes ∨ bytes = 48 :: 88 :: dropMarker bytes := by
  unfold dropMarker
  split
  · exact .inr (.inl rfl)
  · exact .inr (.inr rfl)
  · exact .inl rfl

theorem decode_fixed_of_digits {n : Nat} {text : String} {value : Octets n} {digits : List Char}
    (spells : Spells digits value.toList)
    (dropped : dropMarker (utf8 text) = digits.map fun c => UInt8.ofNat c.toNat)
    (even : (utf8 text).length % 2 = 0) : decodeFixed n text = .ok value := by
  refine decode_fixed_eq_ok_iff.2 ⟨even, ?_, ?_⟩
  · rw [dropped, List.length_map, spells.length_eq, value.length_toList]
  · rw [dropped]
    exact decode_pairs_of_spells spells 0

theorem decode_fixed_eq_ok {n : Nat} {text : String} {value : Octets n} :
    decodeFixed n text = .ok value ↔ Denotes ['x', 'X'] text value.toList := by
  constructor
  · intro found
    obtain ⟨-, width, decoded⟩ := decode_fixed_eq_ok_iff.1 found
    obtain ⟨digits, split, spells⟩ := spells_of_decode_pairs (by omega) decoded
    refine ⟨digits, spells, ?_⟩
    rcases drop_marker_cases (utf8 text) with plain | small | capital
    · exact .inl ((utf8_of_chars spells.ascii).mp (plain.trans split))
    · rw [split] at small
      exact .inr ⟨'x', by simp, (utf8_of_chars (spells.marked_ascii (by decide))).mp small⟩
    · rw [split] at capital
      exact .inr ⟨'X', by simp, (utf8_of_chars (spells.marked_ascii (by decide))).mp capital⟩
  · intro parts
    obtain ⟨digits, spells, plain | ⟨mark, listed, marked⟩⟩ := parts
    · rw [← utf8_of_chars spells.ascii] at plain
      refine decode_fixed_of_digits spells ?_ ?_
      · rw [plain, spells.drop_marker.2]
      · rw [plain, List.length_map, spells.length_eq]
        omega
    · have octets : dropMarker (utf8 text) = digits.map (fun c => UInt8.ofNat c.toNat) ∧
          (utf8 text).length % 2 = 0 := by
        simp only [List.mem_cons, List.not_mem_nil, or_false] at listed
        rcases listed with rfl | rfl <;>
          rw [← utf8_of_chars (spells.marked_ascii (by decide))] at marked <;>
          refine ⟨by rw [marked]; rfl, ?_⟩ <;>
          · rw [marked, List.length_map, List.length_cons, List.length_cons, spells.length_eq]
            omega
      exact decode_fixed_of_digits spells octets.1 octets.2

end Hex
end SignedTx
