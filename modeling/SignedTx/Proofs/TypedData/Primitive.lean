import SignedTx.Proofs.BigEndian
import SignedTx.Proofs.Outcome
import SignedTx.Proofs.Text.Digits
import SignedTx.TypedData.Scalar

/-!
# Words of primitive values

For each primitive type one equivalence says which values have a word and which word it is; every
other value is refused as invalid for the type. An integer type is no wider than a word, so integers
of one type with one word are equal.
-/

set_option autoImplicit false

namespace SignedTx.TypedData

theorem word_count_eq : wordCount = 2 ^ 256 := by decide

/-- Integers with one word are equal if they lie closer than the number of words. -/
theorem word_of_int_injective {left right : Int} (same : wordOfInt left = wordOfInt right)
    (below : left - right < 2 ^ 256) (above : right - left < 2 ^ 256) : left = right := by
  have numbers := congrArg Octets.toNat same
  simp only [wordOfInt, Octets.to_nat_of_nat, word_count_eq] at numbers
  omega

theorem integer_eq_ok {type : String} {json : Json} {value : Int} :
    integer type json = .ok value ↔ integer? json = some value := by
  rw [integer]
  cases integer? json <;> simp

theorem magnitude_of_digits {text : List Char} (digits : ∀ c ∈ text, c.isDigit = true) :
    magnitude? text = Digits.decimal? text := by
  unfold magnitude?
  split
  · exact absurd (digits 'x' (by simp)) (by decide)
  · exact absurd (digits 'X' (by simp)) (by decide)
  · rfl

/-- Behind a mark there is at least one character, and underscores are dropped. -/
theorem magnitude_of_marked {mark : Char} {digits : List Char} {n : Nat}
    (marked : mark = 'x' ∨ mark = 'X') : magnitude? ('0' :: mark :: digits) = some n ↔
      digits ≠ [] ∧ Digits.spacedNat? 16 digits = some n := by
  have read : magnitude? ('0' :: mark :: digits) =
      if digits.isEmpty then none else Digits.spacedNat? 16 digits := by
    rcases marked with rfl | rfl
    · rfl
    · rfl
  rw [read]
  cases digits with
  | nil => simp
  | cons c rest => simp

theorem filter_below_words (n : Nat) :
    (some n).filter (· < wordCount) = if n < 2 ^ 256 then some n else none := by
  rw [word_count_eq, Option.filter_some]
  simp only [decide_eq_true_eq]

theorem integer_of_unsigned {text : String} {n : Nat}
    (unsigned : ∀ digits, text.toList ≠ '-' :: digits) (read : magnitude? text.toList = some n) :
    integer? (.string text) = if n < 2 ^ 256 then some (n : Int) else none := by
  rw [integer?]
  unfold integerOfText?
  split
  · rename_i digits signed
    exact absurd signed (unsigned digits)
  · rw [read, filter_below_words]
    split
    · rfl
    · rfl

theorem integer_of_signed {text : String} {digits : List Char} {n : Nat}
    (signed : text.toList = '-' :: digits) (read : magnitude? digits = some n) :
    integer? (.string text) = if n < 2 ^ 256 then some (-(n : Int)) else none := by
  rw [integer?, signed]
  change ((magnitude? digits).filter (· < wordCount)).map (fun n => -(n : Int)) = _
  rw [read, filter_below_words]
  split
  · rfl
  · rfl

/-- A number below that of the words is read back from its decimal text. -/
theorem integer_of_decimal {n : Nat} (small : n < 2 ^ 256) :
    integer? (.string (String.ofList (Digits.decimal n))) = some (n : Int) := by
  have digits : ∀ c ∈ Digits.decimal n, c.isDigit = true := fun _ => Digits.is_digit_of_mem_decimal
  rw [integer_of_unsigned, if_pos small]
  · intro rest signed
    rw [String.toList_ofList] at signed
    rw [signed] at digits
    exact absurd (digits '-' List.mem_cons_self) (by decide)
  · rw [String.toList_ofList, magnitude_of_digits digits, Digits.decimal_decimal]

theorem hex_octets_refused {type : String} {json : Json} {e : Error}
    (refused : hexOctets type json = .error e) : ∃ reason, e = .invalidValue type reason := by
  unfold hexOctets at refused
  cases found : json.string? with
  | none =>
      rw [found] at refused
      cases refused
      exact ⟨_, rfl⟩
  | some text =>
      rw [found] at refused
      cases decoded : Hex.decodeMarked text with
      | ok octets =>
          simp only [decoded] at refused
          cases refused
      | error cause =>
          simp only [decoded] at refused
          cases refused
          exact ⟨_, rfl⟩

theorem integer_refused {type : String} {json : Json} {e : Error}
    (refused : integer type json = .error e) : ∃ reason, e = .invalidValue type reason := by
  unfold integer at refused
  split at refused
  · cases refused
  · cases refused
    exact ⟨_, rfl⟩

namespace Primitive

variable {hash : HashFunction} {type : String} {json : Json} {word : Digest}

theorem encode_string_eq_ok :
    string.encode hash type json = .ok word ↔
      ∃ text, json.string? = some text ∧ word = hash (utf8 text) := by
  unfold encode
  cases json.string? <;> simp [eq_comm]

theorem encode_bytes_eq_ok :
    bytes.encode hash type json = .ok word ↔
      ∃ octets, hexOctets type json = .ok octets ∧ word = hash octets := by
  unfold encode
  rw [Outcome.map_eq_ok_iff]
  simp only [eq_comm]

theorem encode_fixed_bytes_eq_ok {length : Nat} :
    (fixedBytes length).encode hash type json = .ok word ↔
      ∃ octets, hexOctets type json = .ok octets ∧ octets.length ≤ length ∧
        word = Octets.padRight 32 octets := by
  unfold encode
  simp only [Outcome.bind_eq_ok_iff, Outcome.refusal_eq_ok_iff, Except.ok.injEq, Nat.not_lt,
    @eq_comm _ word]

theorem encode_address_eq_ok :
    address.encode hash type json = .ok word ↔
      ∃ text account, json.string? = some text ∧ Hex.decodeFixed 20 text = .ok account ∧
        word = (Octets.zero 12).append account := by
  unfold encode
  cases json.string? with
  | none => simp
  | some text => cases decoded : Hex.decodeFixed 20 text <;> simp [decoded, eq_comm]

theorem encode_bool_eq_ok :
    bool.encode hash type json = .ok word ↔
      ∃ value, json.bool? = some value ∧ word = wordOfInt value.toNat := by
  unfold encode
  cases json.bool? <;> simp [eq_comm]

theorem encode_uint_eq_ok {bits : Nat} :
    (uint bits).encode hash type json = .ok word ↔ ∃ value, integer? json = some value ∧
      0 ≤ value ∧ value < 2 ^ bits ∧ word = wordOfInt value := by
  unfold encode
  simp only [Outcome.bind_eq_ok_iff, Outcome.refusal_eq_ok_iff, integer_eq_ok, Nat.one_shiftLeft,
    Int.not_lt, Nat.not_le, Except.ok.injEq, @eq_comm _ word]
  refine exists_congr fun value => and_congr_right fun _ => and_congr_right fun natural => ?_
  obtain ⟨n, rfl⟩ := Int.eq_ofNat_of_zero_le natural
  rw [Int.toNat_natCast]
  norm_cast

theorem encode_uint_of_decimal {n : Nat} (small : n < 2 ^ 256) :
    (uint 256).encode hash type (.string (String.ofList (Digits.decimal n))) =
      .ok (wordOfInt n) := by
  exact encode_uint_eq_ok.2 ⟨n, integer_of_decimal small, Int.natCast_nonneg n, by exact_mod_cast small, rfl⟩

theorem encode_int_eq_ok {bits : Nat} :
    (int bits).encode hash type json = .ok word ↔ ∃ value, integer? json = some value ∧
      -2 ^ (bits - 1) ≤ value ∧ value < 2 ^ (bits - 1) ∧ word = wordOfInt value := by
  unfold encode
  simp only [Outcome.bind_eq_ok_iff, Outcome.refusal_eq_ok_iff, integer_eq_ok, Nat.one_shiftLeft,
    not_or, Int.not_lt, Int.not_le, and_assoc, Except.ok.injEq, @eq_comm _ word]
  push_cast
  rfl

theorem bits_le_of_bits {digits : List Char} {bits : Nat} (found : bits? digits = some bits) :
    bits ≤ 256 := by
  rw [bits?, Option.filter_eq_some_iff] at found
  simp only [Bool.and_eq_true, decide_eq_true_eq] at found
  exact found.2.2

theorem bits_le_of_sized {text : List Char} {bits : Nat}
    (sized : ofSized? text = some (.uint bits) ∨ ofSized? text = some (.int bits)) :
    bits ≤ 256 := by
  unfold ofSized? at sized
  split at sized <;> simp only [Option.map_eq_some_iff, reduceCtorEq, and_false, exists_false,
    or_false, false_or, or_self] at sized
  · obtain ⟨_, found, same⟩ := sized
    cases same
    exact bits_le_of_bits found
  · obtain ⟨_, found, same⟩ := sized
    cases same
    exact bits_le_of_bits found

/-- An integer type is no wider than a word. -/
theorem bits_le_of_name {name : String} {bits : Nat}
    (named : ofName? name = some (.uint bits) ∨ ofName? name = some (.int bits)) :
    bits ≤ 256 := by
  unfold ofName? at named
  iterate 4
    split at named
    · simp at named
  split at named
  · simp only [Option.some.injEq, uint.injEq, reduceCtorEq, or_false] at named
    omega
  split at named
  · simp only [Option.some.injEq, int.injEq, reduceCtorEq, false_or] at named
    omega
  exact bits_le_of_sized named

/-- A value that has no word is named invalid, under the type as it is written. -/
theorem invalid_of_encode_error {primitive : Primitive} {e : Error}
    (refused : primitive.encode hash type json = .error e) :
    ∃ reason, e = .invalidValue type reason := by
  cases primitive with
  | string | bool =>
      simp only [encode] at refused
      split at refused
      · cases refused
      · cases refused
        exact ⟨_, rfl⟩
  | address =>
      simp only [encode] at refused
      split at refused
      · cases refused
        exact ⟨_, rfl⟩
      split at refused
      · cases refused
      · cases refused
        exact ⟨_, rfl⟩
  | bytes =>
      rw [encode] at refused
      cases read : hexOctets type json with
      | ok octets =>
          rw [read] at refused
          cases refused
      | error cause =>
          rw [read] at refused
          cases refused
          exact hex_octets_refused read
  | fixedBytes length =>
      rw [encode, Outcome.bind_eq_error_iff] at refused
      rcases refused with early | ⟨octets, -, long⟩
      · exact hex_octets_refused early
      · rcases Outcome.refusal_eq_error_iff.1 long with ⟨-, rfl⟩ | ⟨-, fitted⟩
        · exact ⟨_, rfl⟩
        · cases fitted
  | uint bits =>
      rw [encode, Outcome.bind_eq_error_iff] at refused
      rcases refused with early | ⟨value, -, outside⟩
      · exact integer_refused early
      · rcases Outcome.refusal_eq_error_iff.1 outside with ⟨-, rfl⟩ | ⟨-, natural⟩
        · exact ⟨_, rfl⟩
        rcases Outcome.refusal_eq_error_iff.1 natural with ⟨-, rfl⟩ | ⟨-, fitted⟩
        · exact ⟨_, rfl⟩
        · cases fitted
  | int bits =>
      rw [encode, Outcome.bind_eq_error_iff] at refused
      rcases refused with early | ⟨value, -, outside⟩
      · exact integer_refused early
      · rcases Outcome.refusal_eq_error_iff.1 outside with ⟨-, rfl⟩ | ⟨-, fitted⟩
        · exact ⟨_, rfl⟩
        · cases fitted

end Primitive

end SignedTx.TypedData
