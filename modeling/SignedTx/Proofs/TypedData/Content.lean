import SignedTx.Proofs.TypedData.Primitive
import SignedTx.Proofs.TypedData.TypeName

/-!
# What primitive values hold, and their words

A value of a primitive type holds a text, octets, an account, a truth value or a number; which JSON
values do, and when the content fits the type, is said here without the encoder. Each content has one
word. The encoder gives a value a word if and only if it holds some content, and then that word.
-/

set_option autoImplicit false

namespace SignedTx.TypedData

/-! ## Integers -/

/-- Digits of a number below 2²⁵⁶: decimal ones, or hexadecimal ones behind a mark, among which `_`
counts for nothing. -/
inductive SpellsMagnitude : List Char → Nat → Prop
  | decimal {digits : List Char} {n : Nat} (some_digit : digits ≠ [])
      (spells : Digits.Spells 10 digits n) (fits : n < 2 ^ 256) : SpellsMagnitude digits n
  | hexadecimal {mark : Char} {digits : List Char} {n : Nat} (marked : mark = 'x' ∨ mark = 'X')
      (some_char : digits ≠ []) (spells : Digits.Spells 16 (digits.filter (· ≠ '_')) n)
      (fits : n < 2 ^ 256) : SpellsMagnitude ('0' :: mark :: digits) n

/-- A JSON integer, or a string of digits with at most a minus sign before them. -/
inductive SpellsInteger : Json → Int → Prop
  | number (value : Int) : SpellsInteger (.number (.integer value)) value
  | positive {text : String} {n : Nat} (digits : SpellsMagnitude text.toList n) :
      SpellsInteger (.string text) n
  | negative {text : String} {digits : List Char} {n : Nat} (signed : text.toList = '-' :: digits)
      (spelled : SpellsMagnitude digits n) : SpellsInteger (.string text) (-n)

theorem decimal_not_marked {mark : Char} {digits : List Char} {n : Nat}
    (marked : mark = 'x' ∨ mark = 'X') : ¬ Digits.Spells 10 ('0' :: mark :: digits) n := by
  intro spells
  have digit := spells.valid (List.mem_cons_of_mem '0' List.mem_cons_self)
  rcases marked with rfl | rfl
  · exact absurd digit (by decide)
  · exact absurd digit (by decide)

theorem marked_magnitude_iff {mark : Char} {digits : List Char} {n : Nat}
    (marked : mark = 'x' ∨ mark = 'X') :
    magnitude? ('0' :: mark :: digits) = some n ∧ n < 2 ^ 256 ↔
      SpellsMagnitude ('0' :: mark :: digits) n := by
  rw [magnitude_of_marked marked, Digits.spacedNat?, Digits.to_nat_eq_some]
  constructor
  · intro parts
    obtain ⟨⟨some_char, spells⟩, fits⟩ := parts
    exact .hexadecimal marked some_char spells fits
  · intro spelled
    cases spelled with
    | decimal _ spells => exact absurd spells (decimal_not_marked marked)
    | hexadecimal _ some_char spells fits => exact ⟨⟨some_char, spells⟩, fits⟩

theorem magnitude_eq_some {digits : List Char} {n : Nat} :
    (magnitude? digits).filter (· < wordCount) = some n ↔ SpellsMagnitude digits n := by
  rw [Option.filter_eq_some_iff, decide_eq_true_eq, word_count_eq]
  unfold magnitude?
  split
  · exact marked_magnitude_iff (.inl rfl)
  · exact marked_magnitude_iff (.inr rfl)
  · rename_i small capital
    rw [Digits.decimal_eq_some]
    constructor
    · intro parts
      obtain ⟨⟨some_digit, spells⟩, fits⟩ := parts
      exact .decimal some_digit spells fits
    · intro spelled
      cases spelled with
      | decimal some_digit spells fits => exact ⟨⟨some_digit, spells⟩, fits⟩
      | hexadecimal marked =>
          rcases marked with rfl | rfl
          · exact absurd rfl (small _)
          · exact absurd rfl (capital _)

theorem magnitude_not_signed {digits : List Char} {n : Nat} :
    ¬ SpellsMagnitude ('-' :: digits) n := by
  intro spelled
  cases spelled with
  | decimal _ spells => exact absurd (spells.valid List.mem_cons_self) (by decide)

theorem integer_of_text_eq_some {text : String} {value : Int} :
    integerOfText? text.toList = some value ↔ SpellsInteger (.string text) value := by
  unfold integerOfText?
  split
  · rename_i digits signed
    simp only [Option.map_eq_some_iff, Option.bind_eq_bind, Option.bind_eq_some_iff,
      Option.pure_def, Option.some.injEq]
    constructor
    · intro parts
      obtain ⟨_, ⟨n, read, rfl⟩, rfl⟩ := parts
      exact .negative signed (magnitude_eq_some.1 read)
    · intro spelled
      cases spelled with
      | positive digits =>
          rw [signed] at digits
          exact absurd digits magnitude_not_signed
      | negative otherSigned spelled =>
          cases signed.symm.trans otherSigned
          exact ⟨_, ⟨_, magnitude_eq_some.2 spelled, rfl⟩, rfl⟩
  · rename_i unsigned
    simp only [Option.map_eq_some_iff, Option.bind_eq_bind, Option.bind_eq_some_iff,
      Option.pure_def, Option.some.injEq]
    constructor
    · intro parts
      obtain ⟨_, ⟨n, read, rfl⟩, rfl⟩ := parts
      exact .positive (magnitude_eq_some.1 read)
    · intro spelled
      cases spelled with
      | positive digits => exact ⟨_, ⟨_, magnitude_eq_some.2 digits, rfl⟩, rfl⟩
      | negative signed => exact absurd signed (unsigned _)

theorem integer_eq_some {json : Json} {value : Int} :
    integer? json = some value ↔ SpellsInteger json value := by
  cases json with
  | string text => exact integer_of_text_eq_some
  | number number =>
      cases number with
      | integer found =>
          rw [integer?, Option.some.injEq]
          constructor
          · intro same
            subst same
            exact .number _
          · intro spelled
            cases spelled
            rfl
      | double found =>
          constructor
          · intro refused
            cases refused
          · intro spelled
            cases spelled
  | _ =>
      constructor
      · intro refused
        cases refused
      · intro spelled
        cases spelled

/-! ## Contents -/

/-- What a value of a primitive type holds. -/
inductive Content
  | text (string : String)
  | octets (bytes : List UInt8)
  | padded (bytes : List UInt8)
  | account (holder : Octets 20)
  | truth (value : Bool)
  | number (value : Int)

/-- The JSON value parses as a value of the primitive type, its content fits the type. -/
inductive Primitive.Holds : Primitive → Json → Content → Prop
  | string (text : String) : Holds .string (.string text) (.text text)
  | bytes {text : String} {octets : List UInt8} (denotes : Hex.Denotes ['x'] text octets) :
      Holds .bytes (.string text) (.octets octets)
  | fixedBytes {length : Nat} {text : String} {octets : List UInt8}
      (denotes : Hex.Denotes ['x'] text octets) (fits : octets.length ≤ length) :
      Holds (.fixedBytes length) (.string text) (.padded octets)
  | address {text : String} {account : Octets 20}
      (denotes : Hex.Denotes ['x', 'X'] text account.toList) :
      Holds .address (.string text) (.account account)
  | bool (value : Bool) : Holds .bool (.bool value) (.truth value)
  | uint {bits : Nat} {json : Json} {value : Int} (spells : SpellsInteger json value)
      (natural : 0 ≤ value) (fits : value < 2 ^ bits) : Holds (.uint bits) json (.number value)
  | int {bits : Nat} {json : Json} {value : Int} (spells : SpellsInteger json value)
      (lower : -2 ^ (bits - 1) ≤ value) (upper : value < 2 ^ (bits - 1)) :
      Holds (.int bits) json (.number value)

/-- Texts and octets are hashed. Padded octets stand first in their word, an account stands last,
zeros take the rest. A truth value is zero or one, a number counts modulo 2²⁵⁶. -/
def Content.HasWord (hash : HashFunction) (word : Digest) : Content → Prop
  | .text string => word = hash (utf8 string)
  | .octets bytes => word = hash bytes
  | .padded bytes => word.toList = bytes ++ List.replicate (32 - bytes.length) 0
  | .account holder => word.toList = List.replicate 12 0 ++ holder.toList
  | .truth value => word.toNat = value.toNat
  | .number value => (word.toNat : Int) = value % 2 ^ 256

theorem word_eq_of_nat_iff {value : Nat} {word : Digest} (small : value < 2 ^ 256) :
    word = Octets.ofNat 32 value ↔ word.toNat = value := by
  have read : (Octets.ofNat 32 value).toNat = value := by
    rw [Octets.to_nat_of_nat, Nat.mod_eq_of_lt (by omega)]
  constructor
  · intro same
    subst same
    exact read
  · intro same
    apply Octets.ext
    apply be_nat_injective (by simp)
    exact same.trans read.symm

theorem word_of_int_iff {value : Int} {word : Digest} :
    word = wordOfInt value ↔ (word.toNat : Int) = value % 2 ^ 256 := by
  rw [wordOfInt, word_count_eq, word_eq_of_nat_iff (by omega)]
  omega

theorem word_of_bool_iff {value : Bool} {word : Digest} :
    word = wordOfInt value.toNat ↔ word.toNat = value.toNat := by
  rw [word_of_int_iff]
  cases value <;> simp

theorem padded_word_iff {octets : List UInt8} {word : Digest} (fits : octets.length ≤ 32) :
    word = Octets.padRight 32 octets ↔
      word.toList = octets ++ List.replicate (32 - octets.length) 0 := by
  simp only [Octets.ext_iff, Octets.padRight, List.take_of_length_le fits]

theorem hex_octets_eq_ok {type : String} {json : Json} {octets : List UInt8} :
    hexOctets type json = .ok octets ↔
      ∃ text, json = .string text ∧ Hex.Denotes ['x'] text octets := by
  cases json with
  | string text =>
      rw [hexOctets, Json.string?, Outcome.map_error_eq_ok_iff, Hex.decode_marked_eq_ok]
      simp
  | _ => simp [hexOctets, Json.string?]

namespace Primitive

variable {hash : HashFunction} {type : String} {json : Json} {word : Digest}

theorem length_le_of_name {name : String} {length : Nat}
    (named : Named name (.fixedBytes length)) : length ≤ 32 := by
  cases named
  assumption

theorem exists_holds_of_encode {primitive : Primitive}
    (encoded : primitive.encode hash type json = .ok word) :
    ∃ content, primitive.Holds json content := by
  cases primitive with
  | string =>
      obtain ⟨text, found, -⟩ := encode_string_eq_ok.1 encoded
      cases json <;> cases found
      exact ⟨_, .string _⟩
  | bytes =>
      obtain ⟨octets, found, -⟩ := encode_bytes_eq_ok.1 encoded
      obtain ⟨text, rfl, denotes⟩ := hex_octets_eq_ok.1 found
      exact ⟨_, .bytes denotes⟩
  | fixedBytes length =>
      obtain ⟨octets, found, fits, -⟩ := encode_fixed_bytes_eq_ok.1 encoded
      obtain ⟨text, rfl, denotes⟩ := hex_octets_eq_ok.1 found
      exact ⟨_, .fixedBytes denotes fits⟩
  | address =>
      obtain ⟨text, account, found, decoded, -⟩ := encode_address_eq_ok.1 encoded
      cases json <;> cases found
      exact ⟨_, .address (Hex.decode_fixed_eq_ok.1 decoded)⟩
  | bool =>
      obtain ⟨value, found, -⟩ := encode_bool_eq_ok.1 encoded
      cases json <;> cases found
      exact ⟨_, .bool _⟩
  | uint bits =>
      obtain ⟨value, found, natural, fits, -⟩ := encode_uint_eq_ok.1 encoded
      exact ⟨_, .uint (integer_eq_some.1 found) natural fits⟩
  | int bits =>
      obtain ⟨value, found, lower, upper, -⟩ := encode_int_eq_ok.1 encoded
      exact ⟨_, .int (integer_eq_some.1 found) lower upper⟩

/-- A value that holds a content has that content's word. -/
theorem Holds.encode_eq_ok_iff {primitive : Primitive} {content : Content}
    (holds : primitive.Holds json content) (named : Named type primitive) :
    primitive.encode hash type json = .ok word ↔ content.HasWord hash word := by
  cases holds with
  | string text =>
      simp only [encode_string_eq_ok, Json.string?, Option.some.injEq, exists_eq_left',
        Content.HasWord]
  | bytes denotes =>
      have read := (@hex_octets_eq_ok type _ _).mpr ⟨_, rfl, denotes⟩
      simp only [encode_bytes_eq_ok, read, Except.ok.injEq, exists_eq_left', Content.HasWord]
  | fixedBytes denotes fits =>
      have read := (@hex_octets_eq_ok type _ _).mpr ⟨_, rfl, denotes⟩
      have bounded := length_le_of_name named
      simp only [encode_fixed_bytes_eq_ok, read, Except.ok.injEq, exists_eq_left', fits, true_and]
      exact padded_word_iff (by omega)
  | address denotes =>
      have read := Hex.decode_fixed_eq_ok.2 denotes
      simp only [encode_address_eq_ok, Json.string?, Option.some.injEq, exists_eq_left', read,
        Except.ok.injEq, exists_and_left]
      exact Octets.ext_iff
  | bool value =>
      simp only [encode_bool_eq_ok, Json.bool?, Option.some.injEq, exists_eq_left']
      exact word_of_bool_iff
  | uint spells natural fits =>
      simp only [encode_uint_eq_ok, integer_eq_some.2 spells, Option.some.injEq, exists_eq_left',
        natural, fits, true_and]
      exact word_of_int_iff
  | int spells lower upper =>
      simp only [encode_int_eq_ok, integer_eq_some.2 spells, Option.some.injEq, exists_eq_left',
        lower, upper, true_and]
      exact word_of_int_iff

/-- A value of a primitive type has a word if and only if it holds a content, and then its word. -/
theorem encode_eq_ok {primitive : Primitive} (named : Named type primitive) :
    primitive.encode hash type json = .ok word ↔
      ∃ content, primitive.Holds json content ∧ content.HasWord hash word := by
  constructor
  · intro encoded
    obtain ⟨content, holds⟩ := exists_holds_of_encode encoded
    exact ⟨content, holds, (holds.encode_eq_ok_iff named).mp encoded⟩
  · intro parts
    obtain ⟨content, holds, has_word⟩ := parts
    exact (holds.encode_eq_ok_iff named).mpr has_word

/-- What fits a primitive type has a word. -/
theorem Holds.exists_word {primitive : Primitive} {content : Content}
    (holds : primitive.Holds json content) (named : Named type primitive) (hash : HashFunction) :
    ∃ word, content.HasWord hash word := by
  cases holds with
  | string text => exact ⟨hash (utf8 text), rfl⟩
  | bytes => exact ⟨hash _, rfl⟩
  | fixedBytes _ fits =>
      have bounded := length_le_of_name named
      exact ⟨_, (padded_word_iff (by omega)).mp rfl⟩
  | @address _ account => exact ⟨(Octets.zero 12).append account, rfl⟩
  | bool value => exact ⟨_, word_of_bool_iff.1 rfl⟩
  | uint => exact ⟨_, word_of_int_iff.1 rfl⟩
  | int => exact ⟨_, word_of_int_iff.1 rfl⟩

end Primitive

end SignedTx.TypedData
