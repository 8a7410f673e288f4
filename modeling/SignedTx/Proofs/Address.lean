import Mathlib
import SignedTx.Proofs.Text.Bech32.Reading

/-!
# Texts of addresses

An address is read from the text that it is written as and from that text in capitals, and from no
other. The human-readable part is any that can be written without capitals, so it may hold the
separator itself. What stands in for an address and is none, because of its checksum, its
human-readable part, its last bits or its letters, is refused, mostly with a message of its own.
-/

set_option autoImplicit false

namespace SignedTx

namespace Bech32

/-! ## Letters of either case -/

theorem is_upper_eq (c : Char) : isUpper c = c.isUpper := by
  rw [isUpper, Char.isUpper, Bool.decide_and]
  rfl

theorem is_lower_eq (c : Char) : isLower c = c.isLower := rfl

theorem to_lower_eq (c : Char) : toLower c = c.toLower := by
  rw [toLower, is_upper_eq]
  split
  · rename_i capital
    rw [Char.toLower_eq_of_isUpper capital]
  · rename_i small
    rw [Char.toLower_eq_of_not_isUpper small]

/-- The text as it is written, or all of it in capitals. -/
def IsFormOf (text written : String) : Prop := text = written ∨ text = written.toUpper

theorem upper_of_no_small {text written : String} (no_small : ∀ c ∈ text.toList, isLower c = false)
    (same : text.toList.map toLower = written.toList) : text = written.toUpper := by
  rw [← String.toList_inj, String.toUpper, String.toList_map, ← same, List.map_map]
  refine ((List.map_congr_left fun c listed => ?_).trans (List.map_id _)).symm
  have capital : ¬ c.isLower = true := by
    rw [← is_lower_eq, no_small c listed]
    exact Bool.false_ne_true
  rw [Function.comp_apply, to_lower_eq, Char.toUpper_toLower_eq_toUpper,
    Char.toUpper_eq_of_not_isLower capital, id_eq]

theorem spells_upper {written : String} (small : IsSmall written) :
    Spells written.toUpper written := by
  have chars : written.toUpper.toList = written.toList.map Char.toUpper := String.toList_map
  have no_small : ∀ c ∈ written.toUpper.toList, isLower c = false := by
    rw [chars, List.forall_mem_map]
    exact fun c _ => Char.isLower_toUpper_eq_false c
  refine ⟨.inr ⟨nofun, no_small⟩, ?_⟩
  rw [chars, List.map_map]
  refine (List.map_congr_left fun c listed => ?_).trans (List.map_id _)
  rw [Function.comp_apply, to_lower_eq, Char.toLower_toUpper_eq_toLower, ← to_lower_eq,
    to_lower_of_small (small c listed), id_eq]

theorem spells_iff {text written : String} (small : IsSmall written) :
    Spells text written ↔ IsFormOf text written := by
  constructor
  · rintro ⟨⟨-, no_capital⟩ | ⟨-, no_small⟩, same⟩
    · left
      rw [← String.toList_inj, ← same, ← to_list_lower_hrp, lower_hrp_of_small no_capital]
    · right
      exact upper_of_no_small no_small same
  · rintro (rfl | rfl)
    · exact spells_self small
    · exact spells_upper small

theorem to_lower_of_spelling {text written : String} (spelled : Spells text written) :
    text.toLower = written := by
  rw [← String.toList_inj, String.toLower, String.toList_map, ← spelled.2]
  exact List.map_congr_left fun c _ => (to_lower_eq c).symm

end Bech32

namespace Address

open Bech32 (IsFormOf Spells)

variable {variant : Bech32.Variant} {hrp other written text : String} {data : List Bech32.Symbol}

/-- The text is one that the address has under the human-readable part. -/
def IsTextOf (hrp text : String) (address : Address) : Prop :=
  ∃ written, address.toBech32 hrp = .ok written ∧ IsFormOf text written

theorem is_text_of_iff {address : Address} :
    IsTextOf hrp text address ↔
      ∃ written, address.toBech32 hrp = .ok written ∧ Spells text written := by
  refine exists_congr fun written => and_congr_right fun shown => ?_
  rw [Bech32.spells_iff (Bech32.is_small_of_encode (encode_of_to_bech32 shown))]

theorem decode_of_text {address : Address} (shown : IsTextOf hrp text address) :
    Bech32.decode text =
      .ok (Bech32.lowerHrp hrp, Bech32.symbolsOfOctets address.toList, .bech32) := by
  obtain ⟨written, shown, spelled⟩ := is_text_of_iff.1 shown
  exact Bech32.decode_of_spelling (encode_of_to_bech32 shown) spelled

/-- Whatever human-readable parts they stand under, different addresses have different texts. -/
theorem eq_of_shared_text {left right : Address} (leftText : IsTextOf hrp text left)
    (rightText : IsTextOf other text right) : left = right := by
  have same := (decode_of_text leftText).symm.trans (decode_of_text rightText)
  simp only [Except.ok.injEq, Prod.mk.injEq] at same
  exact eq_of_symbols same.2.1

theorem to_bech32_of_of_bech32 {address : Address} (read : ofBech32 hrp text = .ok address) :
    address.toBech32 hrp = .ok text.toLower := by
  obtain ⟨-, written, shown, spelled⟩ := of_bech32_eq_ok_iff.1 read
  rw [Bech32.to_lower_of_spelling spelled, shown]

/-! ## What is refused -/

theorem decode_of_form (encoded : Bech32.encode variant hrp data = .ok written)
    (form : IsFormOf text written) :
    Bech32.decode text = .ok (Bech32.lowerHrp hrp, data, variant) :=
  Bech32.decode_of_spelling encoded
    ((Bech32.spells_iff (Bech32.is_small_of_encode encoded)).mpr form)

theorem of_bech32_of_other_hrp (encoded : Bech32.encode variant other data = .ok written)
    (form : IsFormOf text written) (differs : hrp ≠ Bech32.lowerHrp other) :
    ofBech32 hrp text = .error (.invalidBech32
      ("expected prefix '" ++ hrp ++ "', got '" ++ Bech32.lowerHrp other ++ "'")) := by
  rw [of_bech32_of_decode (decode_of_form encoded form)]
  exact if_pos differs.symm

theorem of_bech32_of_bech32m (encoded : Bech32.encode .bech32m hrp data = .ok written)
    (form : IsFormOf text written) :
    ofBech32 (Bech32.lowerHrp hrp) text = .error (.invalidBech32 "bech32m is not supported") := by
  rw [of_bech32_of_decode (decode_of_form encoded form), if_neg (not_not.mpr rfl)]
  rfl

theorem of_bech32_of_padding {bytes : List UInt8} {padding : List Bool}
    (bits : data.flatMap Bech32.bitsOfSymbol = bytes.flatMap Bech32.bitsOfOctet ++ padding)
    (short : padding.length < 8) (wrong : 5 ≤ padding.length ∨ true ∈ padding)
    (encoded : Bech32.encode .bech32 hrp data = .ok written) (form : IsFormOf text written) :
    ofBech32 (Bech32.lowerHrp hrp) text = .error (.invalidBech32 "invalid padding") := by
  rw [of_bech32_of_decode (decode_of_form encoded form), if_neg (not_not.mpr rfl),
    if_neg (not_not.mpr rfl), Bech32.octets_of_symbols_of_padding bits short wrong]
  rfl

theorem of_bech32_of_mixed_case {small capital : Char} (has_small : small ∈ text.toList)
    (has_capital : capital ∈ text.toList) (lower : small.isLower = true)
    (upper : capital.isUpper = true) : ∃ e, ofBech32 hrp text = .error e := by
  apply Outcome.exists_error
  intro address read
  obtain ⟨-, _, -, admits, -⟩ := of_bech32_eq_ok_iff.1 read
  rcases admits with ⟨-, no_capital⟩ | ⟨-, no_small⟩
  · have none := no_capital capital has_capital
    rw [Bech32.is_upper_eq, upper] at none
    cases none
  · have none := no_small small has_small
    rw [Bech32.is_lower_eq, lower] at none
    cases none

/-- Under a human-readable part, a text is read as an address exactly if the part is 1 to 83
characters of visible ASCII without capitals and the text is the address's own there, in small
letters or in capitals. Every address has such a text, shares it with no other address, and has it
again in small letters after it is read. Texts of the newer variant, of another human-readable part,
with bits left over that are five or more or not all zero, or with letters of both cases are
refused. -/
theorem address_texts_are_exact (hrp text : String) :
    (∀ address, ofBech32 hrp text = .ok address ↔
      Bech32.IsHrp hrp ∧ IsTextOf hrp text address) ∧
    (Bech32.IsHrp hrp → ∀ address : Address, ∃ written, address.toBech32 hrp = .ok written) ∧
    (∀ other left right, IsTextOf hrp text left → IsTextOf other text right → left = right) ∧
    (∀ address, ofBech32 hrp text = .ok address → address.toBech32 hrp = .ok text.toLower) ∧
    (∀ other data written, Bech32.encode .bech32m other data = .ok written →
      IsFormOf text written → Bech32.lowerHrp other = hrp →
        ofBech32 hrp text = .error (.invalidBech32 "bech32m is not supported")) ∧
    (∀ variant other data written, Bech32.encode variant other data = .ok written →
      IsFormOf text written → Bech32.lowerHrp other ≠ hrp → ofBech32 hrp text =
        .error (.invalidBech32
          ("expected prefix '" ++ hrp ++ "', got '" ++ Bech32.lowerHrp other ++ "'"))) ∧
    (∀ other data written, Bech32.encode .bech32 other data = .ok written →
      IsFormOf text written → Bech32.lowerHrp other = hrp →
        ∀ (bytes : List UInt8) padding,
          data.flatMap Bech32.bitsOfSymbol = bytes.flatMap Bech32.bitsOfOctet ++ padding →
          padding.length < 8 → 5 ≤ padding.length ∨ true ∈ padding →
            ofBech32 hrp text = .error (.invalidBech32 "invalid padding")) ∧
    ∀ small capital : Char, small ∈ text.toList → small.isLower = true →
      capital ∈ text.toList → capital.isUpper = true → ∃ e, ofBech32 hrp text = .error e := by
  refine ⟨?_, ?_, ?_, ?_, ?_, ?_, ?_, ?_⟩
  · intro address
    rw [of_bech32_eq_ok_iff, is_text_of_iff]
  · intro usable address
    obtain ⟨seen, found⟩ := Bech32.check_of_is_hrp usable
    exact address.to_bech32_of_hrp found
  · intro other left right leftText rightText
    exact eq_of_shared_text leftText rightText
  · intro address read
    exact to_bech32_of_of_bech32 read
  · intro other data written encoded form same
    exact same ▸ of_bech32_of_bech32m encoded form
  · intro variant other data written encoded form differs
    exact of_bech32_of_other_hrp encoded form differs.symm
  · intro other data written encoded form same bytes padding bits short wrong
    exact same ▸ of_bech32_of_padding bits short wrong encoded form
  · intro small capital has_small lower has_capital upper
    exact of_bech32_of_mixed_case has_small has_capital lower upper

/-- Under a part that holds the separator, the address of zeros is read from its text in capitals. -/
theorem zero_is_read_from_capitals :
    ofBech32 "a1" "A11QQQQQQQQQQQQQQQQQQQQQQQQQQQQQQQQQQQQQQQQQQQQQQQQQQQQQTTA8J9" =
        .ok zero ∧
      (∃ written, zero.toBech32 "a1" = .ok written) ∧
      IsTextOf "A1" "a11qqqqqqqqqqqqqqqqqqqqqqqqqqqqqqqqqqqqqqqqqqqqqqqqqqqqqtta8j9" zero ∧
      (∀ address, IsTextOf "a1" "a11qqqqqqqqqqqqqqqqqqqqqqqqqqqqqqqqqqqqqqqqqqqqqqqqqqqqqtta8j9" address →
        address = zero) ∧
      zero.toBech32 "a1" =
        .ok "A11QQQQQQQQQQQQQQQQQQQQQQQQQQQQQQQQQQQQQQQQQQQQQQQQQQQQQTTA8J9".toLower ∧
      ofBech32 "a1" "a11qqqqqqqqqqqqqqqqqqqqqqqqqqqqqqqqqqqqqqqqqqqqqqqqqqqqq7hdth8" =
        .error (.invalidBech32 "bech32m is not supported") ∧
      ofBech32 "b" "a11qqqqqqqqqqqqqqqqqqqqqqqqqqqqqqqqqqqqqqqqqqqqqqqqqqqqqtta8j9" =
        .error (.invalidBech32 "expected prefix 'b', got 'a1'") ∧
      ofBech32 "a1" "a11qqqqqqqqqqqqqqqqqqqqqqqqqqqqqqqqqqqqqqqqqqqqqqqqqqqqpkafj0h" =
        .error (.invalidBech32 "invalid padding") ∧
      ∃ e, ofBech32 "a1" "a11Q" = .error e := by
  have usable : Bech32.IsHrp "a1" := by decide
  have lowered : Bech32.lowerHrp "a1" = "a1" := by decide +kernel
  have shown : zero.toBech32 "a1" =
      .ok "a11qqqqqqqqqqqqqqqqqqqqqqqqqqqqqqqqqqqqqqqqqqqqqqqqqqqqqtta8j9" := by
    decide +kernel
  have fromCapital : zero.toBech32 "A1" =
      .ok "a11qqqqqqqqqqqqqqqqqqqqqqqqqqqqqqqqqqqqqqqqqqqqqqqqqqqqqtta8j9" := by
    decide +kernel
  have newerText : Bech32.encode .bech32m "a1" (Bech32.symbolsOfOctets zero.toList) =
      .ok "a11qqqqqqqqqqqqqqqqqqqqqqqqqqqqqqqqqqqqqqqqqqqqqqqqqqqqq7hdth8" := by
    decide +kernel
  have paddedText : Bech32.encode .bech32 "a1" (List.replicate 52 0 ++ [1]) =
      .ok "a11qqqqqqqqqqqqqqqqqqqqqqqqqqqqqqqqqqqqqqqqqqqqqqqqqqqqpkafj0h" := by
    decide +kernel
  have capitals : "A11QQQQQQQQQQQQQQQQQQQQQQQQQQQQQQQQQQQQQQQQQQQQQQQQQQQQQTTA8J9" =
      "a11qqqqqqqqqqqqqqqqqqqqqqqqqqqqqqqqqqqqqqqqqqqqqqqqqqqqqtta8j9".toUpper := by
    rw [← String.toList_inj, String.toUpper, String.toList_map]
    decide +kernel
  have shared : IsTextOf "A1"
      "a11qqqqqqqqqqqqqqqqqqqqqqqqqqqqqqqqqqqqqqqqqqqqqqqqqqqqqtta8j9" zero :=
    ⟨_, fromCapital, .inl rfl⟩
  obtain ⟨exactly, written, -, again, -⟩ := address_texts_are_exact "a1"
    "A11QQQQQQQQQQQQQQQQQQQQQQQQQQQQQQQQQQQQQQQQQQQQQQQQQQQQQTTA8J9"
  have read := (exactly zero).mpr ⟨usable, _, shown, .inr capitals⟩
  refine ⟨read, written usable zero, shared, ?_, again zero read, ?_, ?_, ?_, ?_⟩
  · intro address text
    obtain ⟨-, -, alone, -⟩ := address_texts_are_exact "a1" _
    exact alone "A1" address zero text shared
  · obtain ⟨-, -, -, -, newer, -⟩ := address_texts_are_exact "a1" _
    exact newer "a1" _ _ newerText (.inl rfl) lowered
  · obtain ⟨-, -, -, -, -, foreign, -⟩ := address_texts_are_exact "b" _
    have other : Bech32.lowerHrp "a1" ≠ "b" := by decide +kernel
    rw [foreign .bech32 "a1" _ _ (encode_of_to_bech32 shown) (.inl rfl) other, lowered]
    rfl
  · obtain ⟨-, -, -, -, -, -, padded, -⟩ := address_texts_are_exact "a1" _
    exact padded "a1" _ _ paddedText (.inl rfl) lowered zero.toList [true] (by decide +kernel)
      (by decide) (by decide)
  · obtain ⟨-, -, -, -, -, -, -, mixed⟩ := address_texts_are_exact "a1" "a11Q"
    exact mixed 'a' 'Q' (by decide) (by decide) (by decide) (by decide)

end Address

end SignedTx
