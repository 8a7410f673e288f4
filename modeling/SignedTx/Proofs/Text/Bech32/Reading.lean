import SignedTx.Proofs.Text.Bech32.Checksum
import SignedTx.Proofs.Text.Bech32.LetterCase
import SignedTx.Proofs.Text.Front

/-!
# Reading what was written

The characters of symbols are small letters and digits without the separator, so a text is cut where
it was joined, and only the six symbols that were added meet the checksum. What is read is then known
from the text's small letters, as long as all of it is in one case. A human-readable part without
capitals is its own small form and gives the address back. One with a capital is written in small
letters and so never read under itself: reading gives an error and not another address.
-/

set_option autoImplicit false

namespace SignedTx

namespace Bech32

/-! ## Human-readable parts without capitals -/

/-- The human-readable part has no capital. -/
def IsSmall (hrp : String) : Prop := ∀ c ∈ hrp.toList, isUpper c = false

-- Over the characters of the part, not over all characters.
instance (hrp : String) : Decidable (IsSmall hrp) := List.decidableBAll _ hrp.toList

/-- What a text is read under: 1 to 83 characters of visible ASCII, none of them a capital. -/
structure IsHrp (hrp : String) : Prop extends IsVisible hrp where
  small : IsSmall hrp

instance (hrp : String) : Decidable (IsHrp hrp) :=
  decidable_of_iff (IsVisible hrp ∧ IsSmall hrp)
    ⟨fun ⟨visible, small⟩ => ⟨visible, small⟩, fun ⟨visible, small⟩ => ⟨visible, small⟩⟩

theorem to_list_lower_hrp (hrp : String) : (lowerHrp hrp).toList = hrp.toList.map toLower := by
  rw [lowerHrp, String.toList_ofList]

theorem lower_hrp_of_small {hrp : String} (small : IsSmall hrp) : lowerHrp hrp = hrp := by
  have same : hrp.toList.map toLower = hrp.toList.map id :=
    List.map_congr_left fun c listed => to_lower_of_small (small c listed)
  rw [lowerHrp, same, List.map_id, String.ofList_toList]

theorem is_small_lower_hrp (hrp : String) : IsSmall (lowerHrp hrp) := by
  intro c listed
  rw [to_list_lower_hrp] at listed
  obtain ⟨source, -, rfl⟩ := List.mem_map.mp listed
  exact is_upper_to_lower source

theorem is_visible_lower_hrp_iff {hrp : String} : IsVisible (lowerHrp hrp) ↔ IsVisible hrp := by
  have length : (lowerHrp hrp).length = hrp.length := by
    rw [← String.length_toList, to_list_lower_hrp, List.length_map, String.length_toList]
  rw [is_visible_iff, is_visible_iff, length]
  simp only [to_list_lower_hrp, List.forall_mem_map, visible_to_lower]

theorem is_hrp_lower_hrp {hrp : String} (visible : IsVisible hrp) : IsHrp (lowerHrp hrp) :=
  ⟨is_visible_lower_hrp_iff.2 visible, is_small_lower_hrp hrp⟩

/-! ## The separator -/

theorem split_last_at_separator {front back : List Char} (absent : '1' ∉ back) :
    splitLast (front ++ '1' :: back) = some (front, back) := by
  have backwards : (front ++ '1' :: back).reverse = back.reverse ++ '1' :: front.reverse := by
    rw [List.reverse_append, List.reverse_cons, List.append_assoc]
    rfl
  have none_behind : '1' ∉ back.reverse := fun listed => absent (List.mem_reverse.mp listed)
  simp only [splitLast, backwards, Front.from_mark none_behind, Front.before_mark none_behind,
    List.reverse_reverse]

theorem join_of_split_last {text front back : List Char}
    (cut : splitLast text = some (front, back)) : text = front ++ '1' :: back := by
  simp only [splitLast] at cut
  split at cut
  · cases cut
  rename_i c hrp rest
  cases cut
  have joined := congrArg List.reverse (Front.cut_of_from rest)
  rw [List.reverse_reverse, List.reverse_append, List.reverse_cons, List.append_assoc] at joined
  exact joined

theorem separator_of_to_lower (c : Char) : toLower c = '1' → c = '1' := by
  revert c
  apply of_capitals_and_others
  · decide
  · intro c small
    rw [to_lower_of_small small]
    exact id

theorem admits_separator_iff {seen : LetterCase} {front back : List Char} :
    seen.Admits (front ++ '1' :: back) ↔ seen.Admits (front ++ back) := by
  have no_capital : isUpper '1' = false := by decide
  have no_small : isLower '1' = false := by decide
  simp only [LetterCase.Admits, List.forall_mem_append, List.forall_mem_cons, no_capital, no_small,
    true_and]

/-- Symbols hold no separator, so a text is cut where its small letters are. -/
theorem map_lower_eq_iff {text head : List Char} {symbols : List Symbol} :
    text.map toLower = head ++ '1' :: symbols.map symbolChar ↔
      ∃ front back, splitLast text = some (front, back) ∧ front.map toLower = head ∧
        back.map toLower = symbols.map symbolChar := by
  constructor
  · intro same
    obtain ⟨front, tail, rfl, frontEq, tailEq⟩ := List.map_eq_append_iff.mp same
    obtain ⟨c, back, rfl, separator, chars⟩ := List.map_eq_cons_iff.mp tailEq
    have separatorEq := separator_of_to_lower c separator
    subst separatorEq
    have absent : '1' ∉ back := by
      intro listed
      have lowered := List.mem_map_of_mem (f := toLower) listed
      rw [chars] at lowered
      obtain ⟨symbol, -, char⟩ := List.mem_map.mp lowered
      exact (symbol_char_cases symbol).2.1 char
    exact ⟨front, back, split_last_at_separator absent, frontEq, chars⟩
  · rintro ⟨front, back, cut, frontEq, chars⟩
    rw [join_of_split_last cut, List.map_append, List.map_cons, frontEq, chars]
    rfl

/-! ## Texts -/

/-- The characters of a text in small letters: human-readable part, separator, data and checksum. -/
def letters (variant : Variant) (hrp : String) (data : List Symbol) : List Char :=
  hrp.toList ++ '1' :: (data ++ checksum variant (utf8 hrp) data).map symbolChar

theorem encode_eq_ok_iff {variant : Variant} {hrp text : String} {data : List Symbol} :
    encode variant hrp data = .ok text ↔
      (∃ seen, checkHrp hrp = .ok seen) ∧ text.toList = letters variant (lowerHrp hrp) data := by
  have written : (lowerHrp hrp ++ String.ofList
      ('1' :: (data ++ checksum variant (utf8 (lowerHrp hrp)) data).map symbolChar)).toList =
        letters variant (lowerHrp hrp) data := by
    rw [String.toList_append, String.toList_ofList, letters]
  rw [encode, ← written, String.toList_inj]
  cases usable : checkHrp hrp with
  | error e => simp
  | ok seen => simp [eq_comm]

/-- Symbols are data and their checksum exactly if the last six of them are found to be one. -/
theorem eq_append_checksum_iff {variant : Variant} {hrp : List UInt8} {symbols data : List Symbol} :
    symbols = data ++ checksum variant hrp data ↔
      6 ≤ symbols.length ∧ variantOf hrp symbols = some variant ∧
        data = symbols.take (symbols.length - 6) := by
  constructor
  · rintro rfl
    have length : (data ++ checksum variant hrp data).length = data.length + 6 := by
      rw [List.length_append, length_checksum]
    refine ⟨by omega, variant_of_checksum variant hrp data, ?_⟩
    rw [length, Nat.add_sub_cancel, List.take_left]
  · rintro ⟨long, met, rfl⟩
    have six : (symbols.drop (symbols.length - 6)).length = 6 := by
      rw [List.length_drop]
      omega
    rw [← symbols.take_append_drop (symbols.length - 6), variant_of_eq_some_iff six] at met
    rw [← met, List.take_append_drop]

/-- What is found while a text is read. -/
theorem decode_eq_ok_iff_parts {variant : Variant} {hrp text : String} {data : List Symbol} :
    decode text = .ok (hrp, data, variant) ↔
      ∃ front back seen symbols, splitLast text.toList = some (front, back) ∧
        checkHrp (String.ofList front) = .ok seen ∧ readSymbols seen back = .ok symbols ∧
        lowerHrp (String.ofList front) = hrp ∧ 6 ≤ symbols.length ∧
        variantOf (utf8 hrp) symbols = some variant ∧
        data = symbols.take (symbols.length - 6) := by
  constructor
  · intro decoded
    simp only [decode] at decoded
    split at decoded
    · cases decoded
    rename_i front back cut
    split at decoded
    · cases decoded
    rename_i seen usable
    split at decoded
    · cases decoded
    rename_i symbols read
    obtain ⟨long, decoded⟩ := Outcome.refusal_eq_ok_iff.1 decoded
    split at decoded
    · cases decoded
    rename_i found met
    cases decoded
    exact ⟨front, back, seen, symbols, cut, usable, read, rfl, Nat.not_lt.mp long, met, rfl⟩
  · rintro ⟨front, back, seen, symbols, cut, usable, read, rfl, long, met, rfl⟩
    simp only [decode, cut, usable, read, met, if_neg (Nat.not_lt.mpr long)]

/-- A text is read exactly if it is in one case and its small letters are those that are written. -/
theorem decode_eq_ok_iff {variant : Variant} {hrp text : String} {data : List Symbol} :
    decode text = .ok (hrp, data, variant) ↔
      IsHrp hrp ∧ LetterCase.unseen.Admits text.toList ∧
        text.toList.map toLower = letters variant hrp data := by
  rw [decode_eq_ok_iff_parts]
  constructor
  · rintro ⟨front, back, seen, symbols, cut, usable, read, rfl, checked⟩
    obtain ⟨admits, chars⟩ := read_symbols_eq_ok_iff.1 read
    obtain ⟨visible, admits⟩ := check_hrp_admits_iff.1 ⟨seen, usable, admits⟩
    rw [String.toList_ofList, ← admits_separator_iff, ← join_of_split_last cut] at admits
    refine ⟨is_hrp_lower_hrp visible, admits, ?_⟩
    rw [letters, ← eq_append_checksum_iff.2 checked, map_lower_eq_iff]
    exact ⟨front, back, cut, by rw [to_list_lower_hrp, String.toList_ofList], chars⟩
  · rintro ⟨usable, admits, same⟩
    obtain ⟨front, back, cut, frontEq, chars⟩ := map_lower_eq_iff.1 same
    have lowered : lowerHrp (String.ofList front) = hrp := by
      rw [← String.toList_inj, to_list_lower_hrp, String.toList_ofList, frontEq]
    have visible : IsVisible (String.ofList front) := by
      rw [← is_visible_lower_hrp_iff, lowered]
      exact usable.toIsVisible
    rw [join_of_split_last cut, admits_separator_iff] at admits
    obtain ⟨seen, found, admits⟩ :=
      check_hrp_admits_iff.2 ⟨visible, by rwa [String.toList_ofList]⟩
    exact ⟨front, back, seen, _, cut, found, read_symbols_eq_ok_iff.2 ⟨admits, chars⟩, lowered,
      eq_append_checksum_iff.1 rfl⟩

theorem is_visible_of_check {hrp : String} {seen : LetterCase} (usable : checkHrp hrp = .ok seen) :
    IsVisible hrp :=
  (check_hrp_admits_iff.1 ⟨seen, usable, admits_nil seen⟩).1

theorem check_of_is_hrp {hrp : String} (usable : IsHrp hrp) : ∃ seen, checkHrp hrp = .ok seen := by
  have whole : LetterCase.unseen.Admits (hrp.toList ++ []) := by
    rw [List.append_nil]
    exact .inl ⟨nofun, usable.small⟩
  obtain ⟨seen, found, -⟩ := check_hrp_admits_iff.2 ⟨usable.toIsVisible, whole⟩
  exact ⟨seen, found⟩

/-- A text is another one with the letters' case left open, as long as it is one case. -/
def Spells (text written : String) : Prop :=
  LetterCase.unseen.Admits text.toList ∧ text.toList.map toLower = written.toList

theorem spells_self {text : String} (small : IsSmall text) : Spells text text := by
  refine ⟨.inl ⟨nofun, small⟩, ?_⟩
  rw [← to_list_lower_hrp, lower_hrp_of_small small]

theorem is_small_of_encode {variant : Variant} {hrp written : String} {data : List Symbol}
    (encoded : encode variant hrp data = .ok written) : IsSmall written := by
  have separator : isUpper '1' = false := by decide
  rw [IsSmall, (encode_eq_ok_iff.1 encoded).2, letters, List.forall_mem_append,
    List.forall_mem_cons, List.forall_mem_map]
  exact ⟨is_small_lower_hrp hrp, separator, fun symbol _ => (symbol_char_cases symbol).1⟩

/-- A text in either case is read as what it was written from, and the human-readable part is its
small form then. -/
theorem decode_of_spelling {variant : Variant} {hrp written text : String} {data : List Symbol}
    (encoded : encode variant hrp data = .ok written) (spelled : Spells text written) :
    decode text = .ok (lowerHrp hrp, data, variant) := by
  obtain ⟨⟨seen, usable⟩, whole⟩ := encode_eq_ok_iff.1 encoded
  rw [decode_eq_ok_iff, ← whole]
  exact ⟨is_hrp_lower_hrp (is_visible_of_check usable), spelled⟩

/-- What is read from a text is written as the text's small letters. -/
theorem encode_of_decode {variant : Variant} {hrp text : String} {data : List Symbol}
    (decoded : decode text = .ok (hrp, data, variant)) :
    ∃ written, encode variant hrp data = .ok written ∧ Spells text written := by
  obtain ⟨usable, admits, same⟩ := decode_eq_ok_iff.1 decoded
  refine ⟨String.ofList (letters variant hrp data), ?_, admits, ?_⟩
  · rw [encode_eq_ok_iff, String.toList_ofList, lower_hrp_of_small usable.small]
    exact ⟨check_of_is_hrp usable, rfl⟩
  · rw [same, String.toList_ofList]

end Bech32

namespace Address

variable {hrp text : String}

theorem to_bech32_of_encode {written : String} {address : Address}
    (encoded : Bech32.encode .bech32 hrp (Bech32.symbolsOfOctets address.toList) = .ok written) :
    address.toBech32 hrp = .ok written := by
  rw [toBech32, encoded]

theorem of_list_eq_ok_iff {bytes : List UInt8} {address : Address} :
    ofList? bytes = .ok address ↔ address.toList = bytes := by
  rw [← Octets.ofList?_eq_some_iff, ofList?]
  cases taken : Octets.ofList? 33 bytes with
  | some octets =>
      cases address
      simp
  | none => simp

/-- The text is known from what it decodes to. -/
theorem of_bech32_of_decode {found : String} {symbols : List Bech32.Symbol}
    {variant : Bech32.Variant} (decoded : Bech32.decode text = .ok (found, symbols, variant)) :
    ofBech32 hrp text =
      if found ≠ hrp then
        .error (.invalidBech32 ("expected prefix '" ++ hrp ++ "', got '" ++ found ++ "'"))
      else if variant ≠ .bech32 then .error (.invalidBech32 "bech32m is not supported")
      else ((Bech32.octetsOfSymbols symbols).mapError fun e => .invalidBech32 e.message) >>=
        ofList? := by
  rw [ofBech32, decoded]
  dsimp only
  cases Bech32.octetsOfSymbols symbols with
  | error e => rfl
  | ok bytes => rfl

/-- An address is read only from symbols that are its own. -/
theorem decode_of_of_bech32 {address : Address} (read : ofBech32 hrp text = .ok address) :
    Bech32.decode text = .ok (hrp, Bech32.symbolsOfOctets address.toList, .bech32) := by
  cases decoded : Bech32.decode text with
  | error e =>
      rw [ofBech32, decoded] at read
      cases read
  | ok parts =>
      obtain ⟨found, symbols, variant⟩ := parts
      rw [of_bech32_of_decode decoded] at read
      simp only [Outcome.refusal_eq_ok_iff, Outcome.bind_eq_ok_iff, Outcome.map_error_eq_ok_iff,
        ne_eq, not_not] at read
      obtain ⟨same, supported, bytes, regrouped, taken⟩ := read
      rw [Bech32.octets_of_symbols_eq_ok_iff.1 regrouped, of_list_eq_ok_iff.1 taken, same,
        supported]

theorem of_bech32_eq_ok_iff {address : Address} :
    ofBech32 hrp text = .ok address ↔
      Bech32.IsHrp hrp ∧ ∃ written, address.toBech32 hrp = .ok written ∧ Bech32.Spells text written := by
  constructor
  · intro read
    have decoded := decode_of_of_bech32 read
    obtain ⟨written, encoded, spelled⟩ := Bech32.encode_of_decode decoded
    exact ⟨(Bech32.decode_eq_ok_iff.1 decoded).1, written, to_bech32_of_encode encoded, spelled⟩
  · rintro ⟨usable, written, shown, spelled⟩
    have taken : ofList? address.toList = .ok address := of_list_eq_ok_iff.2 rfl
    have decoded := Bech32.decode_of_spelling (encode_of_to_bech32 shown) spelled
    rw [Bech32.lower_hrp_of_small usable.small] at decoded
    rw [of_bech32_of_decode decoded, if_neg (not_not.mpr rfl), if_neg (not_not.mpr rfl),
      Bech32.octets_of_symbols_of_octets]
    exact taken

theorem of_bech32_to_bech32 {address : Address} (small : Bech32.IsSmall hrp)
    (shown : address.toBech32 hrp = .ok text) : ofBech32 hrp text = .ok address := by
  obtain ⟨seen, usable⟩ := hrp_of_to_bech32 shown
  have spelled := Bech32.spells_self (Bech32.is_small_of_encode (encode_of_to_bech32 shown))
  exact of_bech32_eq_ok_iff.2 ⟨⟨Bech32.is_visible_of_check usable, small⟩, text, shown, spelled⟩

/-- Texts are read in small letters, so under a part with a capital nothing is. -/
theorem of_bech32_of_capital (capital : ¬ Bech32.IsSmall hrp) (text : String) :
    ∃ e, ofBech32 hrp text = .error e := by
  apply Outcome.exists_error
  intro address read
  exact capital (of_bech32_eq_ok_iff.1 read).1.small

end Address
end SignedTx
