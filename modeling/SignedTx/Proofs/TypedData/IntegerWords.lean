import SignedTx.Proofs.TypedData.Content
import SignedTx.Proofs.TypedData.Encoding

/-!
# Words of integers

An integer is spelled as a JSON integer, in decimal or in marked hexadecimal, with any number of
leading zeros and at most a minus sign. Which integers a type holds depends on its width alone. The
encoder gives a spelling a word exactly if its integer is one of the type's, and the word is the
integer modulo 2²⁵⁶; so the spelling does not matter. What else the readers take for an integer,
such as underscores among hexadecimal digits, is not the subject here.
-/

set_option autoImplicit false

namespace SignedTx.TypedData

/-! ## Spellings -/

/-- One digit or more of the number, leading zeros allowed, in decimal or in hexadecimal behind a
mark. The number may be of any size. -/
inductive IsNumeral : List Char → Nat → Prop
  | decimal {digits : List Char} {n : Nat} (some_digit : digits ≠ [])
      (spells : Digits.Spells 10 digits n) : IsNumeral digits n
  | hexadecimal {mark : Char} {digits : List Char} {n : Nat} (marked : mark = 'x' ∨ mark = 'X')
      (some_digit : digits ≠ []) (spells : Digits.Spells 16 digits n) :
      IsNumeral ('0' :: mark :: digits) n

/-- A JSON integer of 64 bits with or without a sign, or a string with a numeral in it. -/
inductive IsSpelling : Json → Int → Prop
  | number {z : Int} (lower : -2 ^ 63 ≤ z) (upper : z < 2 ^ 64) :
      IsSpelling (.number (.integer z)) z
  | unsigned {text : String} {n : Nat} (numeral : IsNumeral text.toList n) :
      IsSpelling (.string text) n
  | negative {text : String} {digits : List Char} {n : Nat} (signed : text.toList = '-' :: digits)
      (numeral : IsNumeral digits n) : IsSpelling (.string text) (-n)

theorem IsNumeral.magnitude_eq {digits : List Char} {n : Nat} (numeral : IsNumeral digits n) :
    magnitude? digits = some n := by
  cases numeral with
  | decimal some_digit spells =>
      unfold magnitude?
      split
      · exact absurd spells (decimal_not_marked (.inl rfl))
      · exact absurd spells (decimal_not_marked (.inr rfl))
      · exact Digits.decimal_eq_some.2 ⟨some_digit, spells⟩
  | hexadecimal marked some_digit spells =>
      exact (magnitude_of_marked marked).mpr ⟨some_digit, Digits.spaced_of_spells spells⟩

theorem IsNumeral.not_signed {digits : List Char} {n : Nat} : ¬ IsNumeral ('-' :: digits) n := by
  intro numeral
  cases numeral with
  | decimal _ spells => exact absurd (spells.valid List.mem_cons_self) (by decide)

/-- A spelling is read as its integer, unless the integer is longer than a word without its sign. -/
theorem IsSpelling.integer_eq {json : Json} {z : Int} (spelling : IsSpelling json z) :
    integer? json = if z.natAbs < 2 ^ 256 then some z else none := by
  cases spelling with
  | number lower upper =>
      rw [if_pos (by omega)]
      rfl
  | unsigned numeral =>
      rw [Int.natAbs_natCast]
      apply integer_of_unsigned _ numeral.magnitude_eq
      intro digits signed
      exact IsNumeral.not_signed (signed ▸ numeral)
  | negative signed numeral =>
      rw [Int.natAbs_neg, Int.natAbs_natCast]
      exact integer_of_signed signed numeral.magnitude_eq

theorem IsNumeral.integer_of_text {digits : List Char} {n : Nat} (numeral : IsNumeral digits n)
    (small : n < 2 ^ 256) : integer? (.string (String.ofList digits)) = some (n : Int) := by
  have spelling : IsSpelling (.string (String.ofList digits)) n := by
    apply IsSpelling.unsigned
    rw [String.toList_ofList]
    exact numeral
  rw [spelling.integer_eq, Int.natAbs_natCast, if_pos small]

/-! ## Integer types -/

namespace Primitive

/-- An integer type of any width, its least integer and the first that is too large. -/
inductive Ranges : Primitive → (least excess : Int) → Prop
  | uint (bits : Nat) : Ranges (.uint bits) 0 (2 ^ bits)
  | int (bits : Nat) : Ranges (.int bits) (-2 ^ (bits - 1)) (2 ^ (bits - 1))

variable {primitive : Primitive} {least excess : Int}

theorem Ranges.encode_eq_ok_iff (ranges : primitive.Ranges least excess) {hash : HashFunction}
    {type : String} {json : Json} {word : Digest} :
    primitive.encode hash type json = .ok word ↔ ∃ value, integer? json = some value ∧
      least ≤ value ∧ value < excess ∧ word = wordOfInt value := by
  cases ranges with
  | uint => exact encode_uint_eq_ok
  | int => exact encode_int_eq_ok

/-- No integer of a type is longer than a word, the least one of the widest type included. -/
theorem Ranges.within_word (ranges : primitive.Ranges least excess) {type : String}
    (named : Named type primitive) {z : Int} (lower : least ≤ z) (upper : z < excess) :
    z.natAbs < 2 ^ 256 := by
  have found := of_name_eq_some.2 named
  cases ranges with
  | uint bits =>
      have one_word := bits_le_of_name (.inl found)
      have widest : (2 : Int) ^ bits ≤ 2 ^ 256 := by gcongr; decide
      omega
  | int bits =>
      have one_word := bits_le_of_name (.inr found)
      have widest : (2 : Int) ^ (bits - 1) ≤ 2 ^ 255 := by
        gcongr
        · decide
        · omega
      omega

end Primitive

/-- The type is written as an integer type and no struct has its name. -/
structure Schema.HasIntegerType (schema : Schema) (type : String) (least excess : Int) : Prop where
  undeclared : schema.declares type = false
  integers : ∃ primitive, Primitive.Named type primitive ∧ primitive.Ranges least excess

namespace Schema.HasIntegerType

variable {hash : HashFunction} {schema : Schema} {type : String} {least excess : Int}

/-- Values of the type are encoded as values of a primitive with its range. -/
theorem encode_eq (hasType : schema.HasIntegerType type least excess) (hash : HashFunction) :
    ∃ primitive : Primitive, primitive.Ranges least excess ∧
      ∀ json, encodeValue hash schema json type = primitive.encode hash type json := by
  obtain ⟨primitive, named, ranges⟩ := hasType.integers
  exact ⟨primitive, ranges, fun _ => encode_value_of_primitive named.plain.shape_eq
    hasType.undeclared (Primitive.of_name_eq_some.2 named)⟩

theorem encode_eq_ok_iff (hasType : schema.HasIntegerType type least excess) {json : Json}
    {word : Digest} : encodeValue hash schema json type = .ok word ↔
      ∃ z, integer? json = some z ∧ least ≤ z ∧ z < excess ∧ word = wordOfInt z := by
  obtain ⟨primitive, ranges, encodes⟩ := hasType.encode_eq hash
  rw [encodes]
  exact ranges.encode_eq_ok_iff

theorem encode_of_no_integer (hasType : schema.HasIntegerType type least excess) {json : Json}
    (unread : integer? json = none) : encodeValue hash schema json type =
      .error (.invalidValue type ("cannot parse " ++ json.print ++ " as an integer")) := by
  obtain ⟨primitive, ranges, encodes⟩ := hasType.encode_eq hash
  rw [encodes]
  have refused : integer type json =
      .error (.invalidValue type ("cannot parse " ++ json.print ++ " as an integer")) := by
    rw [integer, unread]
  cases ranges with
  | uint | int =>
      rw [Primitive.encode, refused]
      rfl

/-- Values that are read as one integer are encoded alike, in their word or in the error. -/
theorem encode_congr (hasType : schema.HasIntegerType type least excess) {json other : Json}
    {z : Int} (read : integer? json = some z) (otherRead : integer? other = some z) :
    encodeValue hash schema json type = encodeValue hash schema other type := by
  obtain ⟨primitive, ranges, encodes⟩ := hasType.encode_eq hash
  have same : integer type json = integer type other := by
    rw [integer, integer, read, otherRead]
  rw [encodes, encodes]
  cases ranges with
  | uint | int => rw [Primitive.encode, Primitive.encode, same]

theorem within_word (hasType : schema.HasIntegerType type least excess) {z : Int}
    (lower : least ≤ z) (upper : z < excess) : z.natAbs < 2 ^ 256 := by
  obtain ⟨primitive, named, ranges⟩ := hasType.integers
  exact ranges.within_word named lower upper

theorem invalid_of_error (hasType : schema.HasIntegerType type least excess) {json : Json}
    {e : Error} (refused : encodeValue hash schema json type = .error e) :
    ∃ reason, e = .invalidValue type reason := by
  obtain ⟨primitive, -, encodes⟩ := hasType.encode_eq hash
  rw [encodes] at refused
  exact Primitive.invalid_of_encode_error refused

end Schema.HasIntegerType

/-- The sized integer types, each with its least integer and the first that is too large. -/
inductive IntegerType : (type : String) → (least excess : Int) → Prop
  | uint {bits : Nat} (whole : bits % 8 = 0) (some_octet : 8 ≤ bits) (one_word : bits ≤ 256) :
      IntegerType ("uint" ++ String.ofList (Digits.decimal bits)) 0 (2 ^ bits)
  | int {bits : Nat} (whole : bits % 8 = 0) (some_octet : 8 ≤ bits) (one_word : bits ≤ 256) :
      IntegerType ("int" ++ String.ofList (Digits.decimal bits)) (-2 ^ (bits - 1)) (2 ^ (bits - 1))

theorem is_width_of_decimal {n : Nat} (fits : n < 2 ^ 64) : IsWidth (Digits.decimal n) n := by
  obtain ⟨some_digit, spells⟩ := Digits.decimal_eq_some.1 (Digits.decimal_decimal n)
  exact ⟨some_digit, spells, fits⟩

namespace IntegerType

variable {type : String} {least excess : Int}

theorem exists_primitive (integers : IntegerType type least excess) :
    ∃ primitive, Primitive.Named type primitive ∧ primitive.Ranges least excess := by
  cases integers with
  | @uint bits whole some_octet one_word =>
      have width : IsWidth (Digits.decimal bits) bits := is_width_of_decimal (by omega)
      exact ⟨.uint bits, .sizedUint width whole some_octet one_word, .uint bits⟩
  | @int bits whole some_octet one_word =>
      have width : IsWidth (Digits.decimal bits) bits := is_width_of_decimal (by omega)
      exact ⟨.int bits, .sizedInt width whole some_octet one_word, .int bits⟩

variable {hash : HashFunction} {schema : Schema} {json : Json} {z : Int}

theorem has_integer_type (integers : IntegerType type least excess)
    (undeclared : schema.declares type = false) : schema.HasIntegerType type least excess :=
  ⟨undeclared, integers.exists_primitive⟩

theorem encode_eq_ok_iff (integers : IntegerType type least excess)
    (undeclared : schema.declares type = false) (spelling : IsSpelling json z) {word : Digest} :
    encodeValue hash schema json type = .ok word ↔
      least ≤ z ∧ z < excess ∧ (word.toNat : Int) = z % 2 ^ 256 := by
  have hasType := integers.has_integer_type undeclared
  rw [hasType.encode_eq_ok_iff, ← word_of_int_iff]
  constructor
  · intro parts
    obtain ⟨value, read, lower, upper, same⟩ := parts
    rw [spelling.integer_eq] at read
    split at read
    · cases read
      exact ⟨lower, upper, same⟩
    · cases read
  · intro parts
    obtain ⟨lower, upper, same⟩ := parts
    have read : integer? json = some z := by
      rw [spelling.integer_eq, if_pos (hasType.within_word lower upper)]
    exact ⟨z, read, lower, upper, same⟩

/-- Whatever the value, the only error under an integer type is that the value is invalid. -/
theorem invalid_of_error (integers : IntegerType type least excess)
    (undeclared : schema.declares type = false) {e : Error}
    (refused : encodeValue hash schema json type = .error e) :
    ∃ reason, e = .invalidValue type reason :=
  (integers.has_integer_type undeclared).invalid_of_error refused

end IntegerType

/-- Under an integer type a spelling of an integer has a word exactly if the type holds the integer,
the word is the integer modulo 2²⁵⁶ read big-endian, and every other integer is invalid. All
spellings of one integer have the same word, or all have none. -/
theorem integer_words_are_exact (hash : HashFunction) (schema : Schema) (type : String)
    (least excess : Int) (json : Json) (z : Int) (integers : IntegerType type least excess)
    (undeclared : schema.declares type = false) (spelling : IsSpelling json z) :
    ((∃ word, encodeValue hash schema json type = .ok word) ↔ least ≤ z ∧ z < excess) ∧
      (∀ word, encodeValue hash schema json type = .ok word →
        (word.toNat : Int) = z % 2 ^ 256) ∧
      (¬ (least ≤ z ∧ z < excess) → ∃ reason,
        encodeValue hash schema json type = .error (.invalidValue type reason)) ∧
      ∀ other, IsSpelling other z → ∀ word, encodeValue hash schema other type = .ok word ↔
        encodeValue hash schema json type = .ok word := by
  have encodes : ∀ word, encodeValue hash schema json type = .ok word ↔
      least ≤ z ∧ z < excess ∧ (word.toNat : Int) = z % 2 ^ 256 :=
    fun _ => integers.encode_eq_ok_iff undeclared spelling
  refine ⟨⟨?_, ?_⟩, ?_, ?_, ?_⟩
  · intro parts
    obtain ⟨word, encoded⟩ := parts
    obtain ⟨lower, upper, -⟩ := (encodes word).mp encoded
    exact ⟨lower, upper⟩
  · intro parts
    exact ⟨wordOfInt z, (encodes _).mpr ⟨parts.1, parts.2, word_of_int_iff.1 rfl⟩⟩
  · intro word encoded
    exact ((encodes word).mp encoded).2.2
  · intro outside
    cases result : encodeValue hash schema json type with
    | ok word =>
        obtain ⟨lower, upper, -⟩ := (encodes word).mp result
        exact absurd ⟨lower, upper⟩ outside
    | error e =>
        obtain ⟨reason, rfl⟩ := integers.invalid_of_error undeclared result
        exact ⟨reason, rfl⟩
  · intro other otherSpelling word
    rw [encodes, integers.encode_eq_ok_iff undeclared otherSpelling]

/-! ## The least integer of the widest type -/

theorem decimal_numeral (zeros n : Nat) : IsNumeral (Digits.zeroLed zeros n) n := by
  obtain ⟨some_digit, spells⟩ := Digits.decimal_eq_some.1 (Digits.decimal_zero_led zeros n)
  exact .decimal some_digit spells

def leastText : String := String.ofList ('-' :: Digits.zeroLed 3 (2 ^ 255))

def leastMarkedText : String :=
  String.ofList ('-' :: '0' :: 'X' :: '0' :: '8' :: List.replicate 63 '0')

def excessText : String := String.ofList (Digits.zeroLed 0 (2 ^ 255))

theorem widest_integers : IntegerType "int256" (-2 ^ 255) (2 ^ 255) :=
  @IntegerType.int 256 rfl (by decide) (by decide)

/-- The integer is its own complement, so its word has one bit; without the sign it is invalid. -/
theorem least_integer_is_spelled_twice : ∃ word,
    encodeValue (Octets.padRight 32) [] (.string leastText) "int256" = .ok word ∧
      encodeValue (Octets.padRight 32) [] (.string leastMarkedText) "int256" = .ok word ∧
      word.toNat = 2 ^ 255 ∧ ∃ reason,
        encodeValue (Octets.padRight 32) [] (.string excessText) "int256" =
          .error (.invalidValue "int256" reason) := by
  have spelling : IsSpelling (.string leastText) (-(2 ^ 255 : Nat)) :=
    .negative String.toList_ofList (decimal_numeral 3 (2 ^ 255))
  have marked : IsSpelling (.string leastMarkedText) (-(2 ^ 255 : Nat)) := by
    apply IsSpelling.negative String.toList_ofList
    apply IsNumeral.hexadecimal (.inr rfl) (by simp)
    exact Digits.to_nat_eq_some.1 (by decide +kernel)
  have excess : IsSpelling (.string excessText) (2 ^ 255 : Nat) := by
    apply IsSpelling.unsigned
    rw [excessText, String.toList_ofList]
    exact decimal_numeral 0 (2 ^ 255)
  obtain ⟨exists_iff, exact_word, -, same⟩ :=
    integer_words_are_exact (Octets.padRight 32) [] "int256" _ _ _ _ widest_integers rfl spelling
  obtain ⟨word, encoded⟩ := exists_iff.mpr (by omega)
  obtain ⟨-, -, invalid, -⟩ :=
    integer_words_are_exact (Octets.padRight 32) [] "int256" _ _ _ _ widest_integers rfl excess
  have number := exact_word word encoded
  exact ⟨word, encoded, (same _ marked word).mpr encoded, by omega, invalid (by omega)⟩

end SignedTx.TypedData
