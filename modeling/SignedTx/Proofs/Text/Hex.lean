import SignedTx.Text.Hex

/-!
# Octets of texts and hexadecimal text

A text is known from its octets in UTF-8. The hexadecimal text of octets, with its marker, is read
back as the octets. Reading is not claimed to be injective: the case of digits says nothing.
-/

set_option autoImplicit false

namespace SignedTx

theorem utf8_eq (text : String) : utf8 text = text.toByteArray.data.toList := rfl

theorem utf8_injective : Function.Injective utf8 := by
  intro left right same
  rw [utf8_eq, utf8_eq] at same
  exact String.toByteArray_inj.mp (ByteArray.ext (Array.toList_inj.mp same))

theorem utf8_append (left right : String) : utf8 (left ++ right) = utf8 left ++ utf8 right := by
  simp [utf8_eq]

theorem utf8_of_list (text : List Char) :
    utf8 (String.ofList text) = text.flatMap String.utf8EncodeChar := by
  rw [utf8_eq, String.toByteArray_ofList, List.utf8Encode, List.data_toByteArray]

theorem encode_char_of_ascii {c : Char} (ascii : c.toNat < 128) :
    String.utf8EncodeChar c = [UInt8.ofNat c.toNat] := by
  have short : c.val.toNat ≤ 0x7f := Nat.le_of_lt_succ ascii
  rw [String.utf8EncodeChar]
  exact if_pos short

theorem utf8_of_ascii {text : List Char} (ascii : ∀ c ∈ text, c.toNat < 128) :
    utf8 (String.ofList text) = text.map fun c => UInt8.ofNat c.toNat := by
  rw [utf8_of_list, List.map_eq_flatMap]
  induction text with
  | nil => rfl
  | cons c rest induction =>
      rw [List.flatMap_cons, List.flatMap_cons, encode_char_of_ascii (ascii c (by simp)),
        induction fun other member => ascii other (by simp [member])]

/-- What holds of the 128 characters of ASCII, taken one by one, holds of any of them. -/
theorem of_each_ascii (holds : Char → Prop) (each : ∀ n < 128, holds (Char.ofNat n)) {c : Char}
    (ascii : c.toNat < 128) : holds c := by
  have here := each c.toNat ascii
  rwa [Char.ofNat_toNat] at here

/-- An octet below 128 is a character of its own, never a part of one. -/
theorem char_of_small_octet {c : Char} {byte : UInt8} (member : byte ∈ String.utf8EncodeChar c)
    (small : byte.toNat < 128) : byte.toNat = c.toNat := by
  by_cases ascii : c.toNat < 128
  · rw [encode_char_of_ascii ascii, List.mem_singleton] at member
    rw [member, UInt8.toNat_ofNat']
    omega
  -- The octets of other characters have their top bit set.
  · have long : ¬ c.val.toNat ≤ 127 := fun short => ascii (Nat.lt_succ_of_le short)
    simp only [String.utf8EncodeChar, if_neg long] at member
    split at member
    · simp only [List.mem_cons, List.not_mem_nil, or_false] at member
      rcases member with rfl | rfl <;> rw [UInt8.toNat_ofNat'] at small <;> omega
    split at member
    · simp only [List.mem_cons, List.not_mem_nil, or_false] at member
      rcases member with rfl | rfl | rfl <;> rw [UInt8.toNat_ofNat'] at small <;> omega
    · simp only [List.mem_cons, List.not_mem_nil, or_false] at member
      rcases member with rfl | rfl | rfl | rfl <;> rw [UInt8.toNat_ofNat'] at small <;> omega

theorem mem_utf8_of_mem_chars {text : String} {c : Char} (listed : c ∈ text.toList)
    (ascii : c.toNat < 128) : UInt8.ofNat c.toNat ∈ utf8 text := by
  rw [← @String.ofList_toList text, utf8_of_list]
  exact List.mem_flatMap.mpr ⟨c, listed, by rw [encode_char_of_ascii ascii, List.mem_singleton]⟩

namespace Hex

/-! ## Digits -/

/-- The octet of a digit below sixteen. -/
def digitOctet (n : Nat) : UInt8 := UInt8.ofNat (Digits.hexDigit n).toNat

theorem encode_char_hex_digit {n : Nat} (small : n < 16) :
    String.utf8EncodeChar (Digits.hexDigit n) = [digitOctet n] := by
  have ascii : ∀ n < 16, (Digits.hexDigit n).toNat < 128 := by decide
  exact encode_char_of_ascii (ascii n small)

theorem nibble_digit_octet {n : Nat} (small : n < 16) (index : Nat) :
    nibble (digitOctet n) index = .ok n := by
  have each : ∀ n < 16, Digits.valueIn? 16 (Char.ofNat (digitOctet n).toNat) = some n := by
    decide
  rw [nibble, each n small]

/-- The octets of two digits for each octet. -/
def pairOctets (bytes : List UInt8) : List UInt8 :=
  bytes.flatMap fun byte => [digitOctet (byte.toNat / 16), digitOctet (byte.toNat % 16)]

theorem utf8_encode (bytes : List UInt8) : utf8 (encode bytes) = pairOctets bytes := by
  rw [encode, utf8_of_list, List.flatMap_assoc, pairOctets]
  refine congrArg (bytes.flatMap ·) (funext fun byte => ?_)
  have bounded := byte.toNat_lt
  have high : byte.toNat / 16 < 16 := by omega
  have low : byte.toNat % 16 < 16 := by omega
  rw [ofOctet, List.flatMap_cons, List.flatMap_cons, List.flatMap_nil, List.append_nil,
    encode_char_hex_digit high, encode_char_hex_digit low]
  rfl

theorem length_pair_octets (bytes : List UInt8) : (pairOctets bytes).length = 2 * bytes.length := by
  induction bytes with
  | nil => rfl
  | cons byte rest induction =>
      rw [pairOctets, List.flatMap_cons, List.length_append, List.length_cons]
      rw [pairOctets] at induction
      rw [induction]
      simp only [List.length_cons, List.length_nil]
      omega

theorem decode_pairs_pair_octets (bytes : List UInt8) (index : Nat) :
    decodePairs index (pairOctets bytes) = .ok bytes := by
  induction bytes generalizing index with
  | nil => rfl
  | cons byte rest induction =>
      have bounded := byte.toNat_lt
      have high : byte.toNat / 16 < 16 := by omega
      have low : byte.toNat % 16 < 16 := by omega
      have joined : UInt8.ofNat (16 * (byte.toNat / 16) + byte.toNat % 16) = byte := by
        rw [Nat.div_add_mod]
        exact UInt8.ofNat_toNat
      have later := induction (index + 2)
      rw [pairOctets, List.flatMap_cons]
      rw [pairOctets] at later
      simp only [List.cons_append, List.nil_append, decodePairs, nibble_digit_octet high,
        nibble_digit_octet low, later]
      exact congrArg Except.ok (congrArg (· :: rest) joined)

theorem utf8_encode_marked (bytes : List UInt8) :
    utf8 (encodeMarked bytes) = 48 :: 120 :: pairOctets bytes := by
  rw [encodeMarked, utf8_append, utf8_encode]
  rfl

theorem decode_fixed_encode_marked {n : Nat} (value : Octets n) :
    decodeFixed n (encodeMarked value.toList) = .ok value := by
  have even : (48 :: 120 :: pairOctets value.toList).length % 2 ≠ 1 := by
    simp only [List.length_cons, length_pair_octets]
    omega
  have width : ¬ (pairOctets value.toList).length ≠ 2 * n := by
    rw [length_pair_octets, value.length_toList]
    exact fun differ => differ rfl
  simp only [decodeFixed, utf8_encode_marked, dropMarker]
  rw [if_neg even, if_neg width, decode_pairs_pair_octets]
  simp only [Octets.ofList?_toList]

theorem decode_marked_encode_marked (bytes : List UInt8) :
    decodeMarked (encodeMarked bytes) = .ok bytes := by
  have even : ¬ (pairOctets bytes).length % 2 = 1 := by
    rw [length_pair_octets]
    omega
  simp only [decodeMarked, utf8_encode_marked, decode]
  rw [if_neg even, decode_pairs_pair_octets]

end Hex
end SignedTx
