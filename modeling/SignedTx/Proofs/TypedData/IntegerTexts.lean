import SignedTx.Proofs.TypedData.IntegerWords
import SignedTx.Proofs.TypedData.Reference

/-!
# Texts of integers

A text is an integer's if it has at most a minus sign and then decimal digits, or behind a mark
hexadecimal ones, among which underscores may stand. Under an integer type the encoder accepts no
other text, and says of it that it cannot be parsed; a text of that form it refuses only for its
integer's size. The decimal reader looks at every character itself, the hexadecimal one drops the
underscores before it looks, so two zeros and a mark are not needed for a zero: `0x_` is one.
-/

set_option autoImplicit false

namespace SignedTx.TypedData

/-! ## The grammar -/

def decimalDigits : List Char := "0123456789".toList

def hexadecimalDigits : List Char := "0123456789abcdefABCDEF".toList

/-- One decimal digit or more. Or, behind a mark, one character or more, each of them a hexadecimal
digit or one of `among`. -/
inductive IsDigits (among : List Char) : List Char → Prop
  | decimal {digits : List Char} (some_digit : digits ≠ [])
      (valid : ∀ c ∈ digits, c ∈ decimalDigits) : IsDigits among digits
  | hexadecimal {mark : Char} {digits : List Char} (marked : mark = 'x' ∨ mark = 'X')
      (some_char : digits ≠ []) (valid : ∀ c ∈ digits, c ∈ hexadecimalDigits ∨ c ∈ among) :
      IsDigits among ('0' :: mark :: digits)

/-- At most a minus sign, then digits. -/
def IsIntegerText (among : List Char) (text : String) : Prop :=
  ∃ digits, IsDigits among digits ∧ (text.toList = digits ∨ text.toList = '-' :: digits)

variable {among : List Char}

theorem IsDigits.without {c : Char} {digits : List Char} (valid : IsDigits [c] digits)
    (absent : c ∉ digits) : IsDigits [] digits := by
  cases valid with
  | decimal some_digit valid => exact .decimal some_digit valid
  | hexadecimal marked some_char valid =>
      refine .hexadecimal marked some_char fun d listed => .inl ?_
      rcases valid d listed with digit | same
      · exact digit
      · rw [List.mem_singleton] at same
        subst same
        exact absurd (by simp [listed]) absent

theorem IsIntegerText.without {c : Char} {text : String} (valid : IsIntegerText [c] text)
    (absent : c ∉ text.toList) : IsIntegerText [] text := by
  obtain ⟨digits, isDigits, unsigned | signed⟩ := valid
  · exact ⟨digits, isDigits.without (unsigned ▸ absent), .inl unsigned⟩
  · refine ⟨digits, isDigits.without ?_, .inr signed⟩
    intro listed
    exact absent (signed ▸ List.mem_cons_of_mem '-' listed)

theorem IsIntegerText.mem {text : String} {c : Char} (valid : IsIntegerText among text)
    (listed : c ∈ text.toList) : c ∈ '-' :: 'x' :: 'X' :: hexadecimalDigits ∨ c ∈ among := by
  have inDigits : ∀ {digits : List Char}, IsDigits among digits → c ∈ digits →
      c ∈ '-' :: 'x' :: 'X' :: hexadecimalDigits ∨ c ∈ among := by
    intro digits isDigits inside
    cases isDigits with
    | decimal _ digit =>
        have each : decimalDigits.all (· ∈ '-' :: 'x' :: 'X' :: hexadecimalDigits) = true := by
          decide
        exact .inl (of_decide_eq_true (List.all_eq_true.mp each c (digit c inside)))
    | hexadecimal marked _ digit =>
        rcases List.mem_cons.mp inside with rfl | behind
        · exact .inl (by decide)
        rcases List.mem_cons.mp behind with rfl | later
        · rcases marked with rfl | rfl
          · exact .inl (by decide)
          · exact .inl (by decide)
        · exact (digit c later).imp_left fun hexadecimal => by simp [hexadecimal]
  obtain ⟨digits, isDigits, unsigned | signed⟩ := valid
  · exact inDigits isDigits (unsigned ▸ listed)
  · rw [signed, List.mem_cons] at listed
    rcases listed with rfl | inside
    · exact .inl (by decide)
    · exact inDigits isDigits inside

theorem IsDigits.not_signed {digits : List Char} : ¬ IsDigits among ('-' :: digits) := by
  intro signed
  cases signed with
  | decimal _ valid => exact absurd (valid '-' List.mem_cons_self) (by decide)

/-! ## Digits of the grammar are those that are read -/

theorem mem_hexadecimal_of_digit {base digit : Nat} {c : Char} (bounded : base ≤ 16)
    (read : Digits.valueIn? base c = some digit) : c ∈ hexadecimalDigits := by
  have inRun : ∀ start count, (∀ n < count, Char.ofNat (start + n) ∈ hexadecimalDigits) →
      start ≤ c.toNat → c.toNat < start + count → c ∈ hexadecimalDigits := by
    intro start count each lower upper
    have here := each (c.toNat - start) (by omega)
    rwa [Nat.add_sub_cancel' lower, Char.ofNat_toNat] at here
  obtain ⟨-, ⟨lower, upper⟩ | ⟨lower, upper⟩ | ⟨lower, upper⟩⟩ := Digits.bounds_of_digit bounded read
  · exact inRun 48 10 (by decide) lower (by omega)
  · exact inRun 97 6 (by decide) lower (by omega)
  · exact inRun 65 6 (by decide) lower (by omega)

theorem mem_digits_iff {base : Nat} {chars : List Char} (bounded : base ≤ 16)
    (among : chars = hexadecimalDigits.filter fun c => (Digits.valueIn? base c).isSome) (c : Char) :
    c ∈ chars ↔ (Digits.valueIn? base c).isSome = true := by
  rw [among, List.mem_filter]
  constructor
  · intro parts
    exact parts.2
  · intro read
    obtain ⟨digit, found⟩ := Option.isSome_iff_exists.mp read
    exact ⟨mem_hexadecimal_of_digit bounded found, read⟩

theorem mem_decimal_digits_iff (c : Char) :
    c ∈ decimalDigits ↔ (Digits.valueIn? 10 c).isSome = true :=
  mem_digits_iff (by decide) (by decide) c

theorem mem_hexadecimal_digits_iff (c : Char) :
    c ∈ hexadecimalDigits ↔ (Digits.valueIn? 16 c).isSome = true :=
  mem_digits_iff (by decide) (by decide) c

/-- A run of digits denotes a number, whichever they are. -/
theorem exists_number {base : Nat} {digits : List Char}
    (valid : ∀ c ∈ digits, (Digits.valueIn? base c).isSome = true) :
    ∃ n, Digits.Spells base digits n := by
  have each : ∀ c ∈ digits, ∃ digit, Digits.valueIn? base c = some digit :=
    fun c listed => Option.isSome_iff_exists.mp (valid c listed)
  obtain ⟨values, denoted⟩ := exists_related each
  exact ⟨_, values, denoted, rfl⟩

theorem SpellsMagnitude.is_digits {digits : List Char} {n : Nat}
    (spelled : SpellsMagnitude digits n) : IsDigits ['_'] digits := by
  cases spelled with
  | decimal some_digit spells _ =>
      exact .decimal some_digit fun c listed => (mem_decimal_digits_iff c).mpr (spells.valid listed)
  | @hexadecimal mark digits _ marked some_char spells _ =>
      refine .hexadecimal marked some_char fun c listed => ?_
      by_cases dropped : c = '_'
      · exact .inr (by simp [dropped])
      · have kept : c ∈ digits.filter (· ≠ '_') :=
          List.mem_filter.mpr ⟨listed, by rw [decide_eq_true_eq]; exact dropped⟩
        exact .inl ((mem_hexadecimal_digits_iff c).mpr (spells.valid kept))

theorem IsDigits.exists_magnitude {digits : List Char} (valid : IsDigits ['_'] digits) :
    ∃ n, magnitude? digits = some n := by
  cases valid with
  | decimal some_digit valid =>
      obtain ⟨n, spells⟩ := exists_number fun c listed => (mem_decimal_digits_iff c).mp (valid c listed)
      exact ⟨n, IsNumeral.magnitude_eq (.decimal some_digit spells)⟩
  | @hexadecimal mark digits marked some_char valid =>
      have kept : ∀ c ∈ digits.filter (· ≠ '_'), (Digits.valueIn? 16 c).isSome = true := by
        intro c listed
        obtain ⟨inside, other⟩ := List.mem_filter.mp listed
        rw [decide_eq_true_eq] at other
        rcases valid c inside with digit | same
        · exact (mem_hexadecimal_digits_iff c).mp digit
        · exact absurd (List.mem_singleton.mp same) other
      obtain ⟨n, spells⟩ := exists_number kept
      have read : Digits.spacedNat? 16 digits = some n := Digits.to_nat_eq_some.2 spells
      exact ⟨n, (magnitude_of_marked marked).mpr ⟨some_char, read⟩⟩

/-- A text of the grammar has one integer, whatever the type, and is read unless the integer is
longer than a word without its sign. -/
theorem IsIntegerText.exists_integer {text : String} (valid : IsIntegerText ['_'] text) :
    ∃ z, integer? (.string text) = if z.natAbs < 2 ^ 256 then some z else none := by
  obtain ⟨digits, isDigits, unsigned | signed⟩ := valid
  · obtain ⟨n, read⟩ := isDigits.exists_magnitude
    subst unsigned
    refine ⟨n, ?_⟩
    rw [Int.natAbs_natCast]
    apply integer_of_unsigned _ read
    intro digits signed
    exact IsDigits.not_signed (signed ▸ isDigits)
  · obtain ⟨n, read⟩ := isDigits.exists_magnitude
    refine ⟨-n, ?_⟩
    rw [Int.natAbs_neg, Int.natAbs_natCast]
    exact integer_of_signed signed read

theorem is_integer_text_of_integer {text : String} {z : Int}
    (read : integer? (.string text) = some z) : IsIntegerText ['_'] text := by
  have spelled := integer_eq_some.1 read
  cases spelled with
  | positive digits => exact ⟨_, digits.is_digits, .inl rfl⟩
  | negative signed digits => exact ⟨_, digits.is_digits, .inr signed⟩

/-! ## Under an integer type -/

variable {hash : HashFunction} {schema : Schema}

theorem encode_value_of_encode_data {name : String} {members : Json.Object} {words : List UInt8}
    (encoded : encodeData hash schema name members = .ok words) {field : Field}
    (hasField : schema.HasField name field) {value : Json}
    (found : members.get? field.name = some value) :
    ∃ word, encodeValue hash schema value field.type = .ok word := by
  obtain ⟨fields, declared, listed⟩ := hasField
  obtain ⟨_, each, -⟩ := (encode_data_eq_ok_of_fields declared).mp encoded
  obtain ⟨counted, each⟩ := List.forall₂_iff_zip.mp each
  obtain ⟨word, member⟩ := exists_mem_zip counted listed
  obtain ⟨_, there, word_of⟩ := each member
  cases found.symm.trans there
  exact ⟨word, word_of⟩

/-- Whatever text stands in a field of an integer type: it has a word only if it is one of the
grammar in which underscores may stand among hexadecimal digits, and without an underscore only if it
is one of the grammar without them. Every other text is refused as one that cannot be parsed. No text
of the grammar is: it has one integer, and a word under the types that hold this integer. -/
theorem integer_texts_follow_one_grammar (text : String) :
    (∀ hash schema type least excess, schema.HasIntegerType type least excess →
      (∀ word, encodeValue hash schema (.string text) type = .ok word →
        IsIntegerText ['_'] text ∧ ('_' ∉ text.toList → IsIntegerText [] text)) ∧
      (¬ IsIntegerText ['_'] text → encodeValue hash schema (.string text) type = .error
        (.invalidValue type ("cannot parse " ++ (Json.string text).print ++ " as an integer"))) ∧
      ∀ name field members words, schema.HasField name field → field.type = type →
        members.get? field.name = some (.string text) →
        encodeData hash schema name members = .ok words → IsIntegerText ['_'] text) ∧
    (IsIntegerText ['_'] text → ∃ z, ∀ hash schema type least excess,
      schema.HasIntegerType type least excess → ∀ word,
        encodeValue hash schema (.string text) type = .ok word ↔
          least ≤ z ∧ z < excess ∧ word = wordOfInt z) := by
  constructor
  · intro hash schema type least excess hasType
    have grammar : ∀ word, encodeValue hash schema (.string text) type = .ok word →
        IsIntegerText ['_'] text := by
      intro word encoded
      obtain ⟨z, read, -⟩ := hasType.encode_eq_ok_iff.mp encoded
      exact is_integer_text_of_integer read
    refine ⟨?_, ?_, ?_⟩
    · intro word encoded
      exact ⟨grammar word encoded, (grammar word encoded).without⟩
    · intro outside
      apply hasType.encode_of_no_integer
      rw [Option.eq_none_iff_forall_ne_some]
      intro z read
      exact outside (is_integer_text_of_integer read)
    · intro name field members words hasField same found encoded
      subst same
      obtain ⟨word, encoded⟩ := encode_value_of_encode_data encoded hasField found
      exact grammar word encoded
  · intro valid
    obtain ⟨z, read⟩ := valid.exists_integer
    refine ⟨z, fun hash schema type least excess hasType word => ?_⟩
    rw [hasType.encode_eq_ok_iff]
    constructor
    · intro parts
      obtain ⟨value, found, lower, upper, same⟩ := parts
      rw [read] at found
      split at found
      · cases found
        exact ⟨lower, upper, same⟩
      · cases found
    · intro parts
      obtain ⟨lower, upper, same⟩ := parts
      exact ⟨z, by rw [read, if_pos (hasType.within_word lower upper)], lower, upper, same⟩

theorem short_integers : Schema.HasIntegerType [] "int16" (-2 ^ 15) (2 ^ 15) :=
  @IntegerType.has_integer_type "int16" _ _ [] (@IntegerType.int 16 rfl (by decide) (by decide)) rfl

/-- Behind a mark an underscore does not hurt; a blank does, and so would an underscore without one. -/
theorem marked_text_is_read_and_spaced_one_is_not :
    Schema.HasIntegerType [] "int16" (-2 ^ 15) (2 ^ 15) ∧
      (∃ word, encodeValue (Octets.padRight 32) [] (.string "-0X_fF") "int16" = .ok word) ∧
      IsIntegerText ['_'] "-0X_fF" ∧
      ¬ IsIntegerText ['_'] "1 0" ∧
      encodeValue (Octets.padRight 32) [] (.string "1 0") "int16" =
        .error (.invalidValue "int16" "cannot parse \"1 0\" as an integer") := by
  have read : integer? (.string "-0X_fF") = some (-255) := by decide
  have encoded : ∃ word,
      encodeValue (Octets.padRight 32) [] (.string "-0X_fF") "int16" = .ok word :=
    ⟨_, short_integers.encode_eq_ok_iff.2 ⟨-255, read, by decide, by decide, rfl⟩⟩
  have outside : ¬ IsIntegerText ['_'] "1 0" := by
    intro valid
    exact absurd (valid.mem (show ' ' ∈ "1 0".toList by decide)) (by decide)
  have follows := (integer_texts_follow_one_grammar "-0X_fF").1 (Octets.padRight 32) [] "int16" _ _
    short_integers
  have refuses := (integer_texts_follow_one_grammar "1 0").1 (Octets.padRight 32) [] "int16" _ _
    short_integers
  obtain ⟨word, here⟩ := encoded
  exact ⟨short_integers, ⟨word, here⟩, (follows.1 word here).1, outside, refuses.2.1 outside⟩

/-! ## Underscores -/

def spacedSchema : Schema := [("T", [⟨"v", "uint256"⟩])]

/-- The text has characters that are no digits, and its struct has a word for it all the same. -/
theorem underscores_are_encoded :
    ¬ IsIntegerText [] "0x__f" ∧
      encodeValue (Octets.padRight 32) spacedSchema (.string "0x__f") "uint256" =
        .ok (wordOfInt 15) ∧
      encodeData (Octets.padRight 32) spacedSchema "T" [("v", .string "0x__f")] =
        .ok (wordOfInt 15).toList := by
  have hasType : spacedSchema.HasIntegerType "uint256" 0 (2 ^ 256) :=
    @IntegerType.has_integer_type "uint256" _ _ spacedSchema
      (@IntegerType.uint 256 rfl (by decide) (by decide)) rfl
  have encoded : encodeValue (Octets.padRight 32) spacedSchema (.string "0x__f") "uint256" =
      .ok (wordOfInt 15) :=
    hasType.encode_eq_ok_iff.mpr ⟨15, by decide, by decide, by decide, rfl⟩
  have declared : spacedSchema.fields? "T" = some [⟨"v", "uint256"⟩] := rfl
  have words : encodeData (Octets.padRight 32) spacedSchema "T" [("v", .string "0x__f")] =
      .ok ([wordOfInt 15].flatMap Octets.toList) :=
    encode_data_of_words declared (.cons ⟨_, rfl, encoded⟩ .nil)
  refine ⟨?_, encoded, ?_⟩
  · intro valid
    exact absurd (valid.mem (show '_' ∈ "0x__f".toList by decide)) (by decide)
  · rw [words, List.flatMap_cons, List.flatMap_nil, List.append_nil]

end SignedTx.TypedData
