import Mathlib.Data.List.Basic
import Mathlib.Data.List.GetD
import SignedTx.Address

/-!
# Bech32 loses nothing

Octets are read back from their symbols and from no others, and symbols have different characters,
so under one human-readable part different addresses have different texts. The checksum is only used
for its length; that a text is accepted when it is read is not claimed here.
-/

set_option autoImplicit false

namespace SignedTx

namespace Bech32

/-! ## Regrouping -/

theorem bits_of_symbol_of_bits (a b c d e : Bool) :
    bitsOfSymbol (BitVec.ofNat 5 (natOfBits [a, b, c, d, e])) = [a, b, c, d, e] := by
  revert a b c d e
  decide

theorem bits_of_octet_of_bits (a b c d e f g h : Bool) :
    bitsOfOctet (UInt8.ofNat (natOfBits [a, b, c, d, e, f, g, h])) = [a, b, c, d, e, f, g, h] := by
  revert a b c d e f g h
  decide

theorem bits_of_octet_injective {left right : UInt8} (same : bitsOfOctet left = bitsOfOctet right) :
    left = right := by
  have each := List.map_inj_left.mp same
  apply UInt8.eq_of_toBitVec_eq
  apply BitVec.eq_of_getLsbD_eq
  intro place small
  apply each
  simp only [List.mem_cons, List.not_mem_nil, or_false]
  omega

theorem octet_of_bits_of_octet (byte : UInt8) :
    UInt8.ofNat (natOfBits (bitsOfOctet byte)) = byte :=
  bits_of_octet_injective (bits_of_octet_of_bits _ _ _ _ _ _ _ _)

/-- The symbols' bits are the given bits with fewer than five zeros after them. -/
theorem bits_of_symbols_of_bits (bits : List Bool) :
    ∃ zeros < 5,
      (symbolsOfBits bits).flatMap bitsOfSymbol = bits ++ List.replicate zeros false := by
  fun_induction symbolsOfBits bits with
  | case1 a b c d e rest induction =>
      obtain ⟨zeros, few, restEq⟩ := induction
      refine ⟨zeros, few, ?_⟩
      rw [List.flatMap_cons, bits_of_symbol_of_bits, restEq]
      rfl
  | case2 => exact ⟨0, by decide, rfl⟩
  | case3 short long some_bits =>
      refine ⟨5 - short.length, ?_, ?_⟩
      · cases short with
        | nil => exact absurd rfl some_bits
        | cons => simp only [List.length_cons]; omega
      · rw [List.flatMap_cons, List.flatMap_nil, List.append_nil]
        match short, long, some_bits with
        | [a], _, _ => exact bits_of_symbol_of_bits a false false false false
        | [a, b], _, _ => exact bits_of_symbol_of_bits a b false false false
        | [a, b, c], _, _ => exact bits_of_symbol_of_bits a b c false false
        | [a, b, c, d], _, _ => exact bits_of_symbol_of_bits a b c d false
        | a :: b :: c :: d :: e :: rest, long, _ => exact (long a b c d e rest rfl).elim

theorem octets_of_bits_append (bytes : List UInt8) (bits : List Bool) :
    octetsOfBits (bytes.flatMap bitsOfOctet ++ bits) = (octetsOfBits bits).map (bytes ++ ·) := by
  induction bytes with
  | nil =>
      rw [List.flatMap_nil, List.nil_append]
      cases octetsOfBits bits <;> rfl
  | cons byte rest induction =>
      rw [List.flatMap_cons, List.append_assoc]
      change (octetsOfBits (rest.flatMap bitsOfOctet ++ bits)).map
        (UInt8.ofNat (natOfBits (bitsOfOctet byte)) :: ·) = _
      rw [induction, octet_of_bits_of_octet]
      cases octetsOfBits bits <;> rfl

/-- Fewer than eight bits are no octet, but fewer than five zeros are no fault either. -/
theorem octets_of_short_bits {bits : List Bool} (short : bits.length < 8) :
    octetsOfBits bits =
      if bits.length < 5 ∧ bits.all (! ·) then .ok [] else .error .invalidPadding := by
  fun_cases octetsOfBits bits with
  | case1 a b c d e f g h rest => exact absurd short (by simp only [List.length_cons]; omega)
  | case2 _ _ few => rw [if_pos few]
  | case3 _ _ many => rw [if_neg many]

theorem octets_of_symbols_of_octets (bytes : List UInt8) :
    octetsOfSymbols (symbolsOfOctets bytes) = .ok bytes := by
  obtain ⟨zeros, few, bitsEq⟩ := bits_of_symbols_of_bits (bytes.flatMap bitsOfOctet)
  have short : (List.replicate zeros false).length < 8 := by
    rw [List.length_replicate]
    omega
  have filled : (List.replicate zeros false).length < 5 ∧
      (List.replicate zeros false).all (! ·) = true := by
    rw [List.length_replicate]
    exact ⟨few, by simp⟩
  rw [octetsOfSymbols, symbolsOfOctets, bitsEq, octets_of_bits_append, octets_of_short_bits short,
    if_pos filled]
  exact congrArg Except.ok (List.append_nil bytes)

theorem symbols_of_octets_injective {left right : List UInt8}
    (same : symbolsOfOctets left = symbolsOfOctets right) : left = right := by
  have read := octets_of_symbols_of_octets left
  rw [same, octets_of_symbols_of_octets] at read
  exact (Except.ok.inj read).symm

/-! ## Regrouping is exact -/

/-- Bits that octets are read from are theirs, with fewer than five zeros after them. -/
theorem bits_of_octets_of_bits {bits : List Bool} {bytes : List UInt8}
    (read : octetsOfBits bits = .ok bytes) :
    ∃ zeros < 5, bits = bytes.flatMap bitsOfOctet ++ List.replicate zeros false := by
  fun_induction octetsOfBits bits generalizing bytes with
  | case1 a b c d e f g h rest induction =>
      cases later : octetsOfBits rest with
      | error e =>
          rw [later] at read
          cases read
      | ok others =>
          rw [later] at read
          cases read
          obtain ⟨zeros, few, restEq⟩ := induction later
          refine ⟨zeros, few, ?_⟩
          rw [List.flatMap_cons, bits_of_octet_of_bits, List.append_assoc, ← restEq]
          rfl
  | case2 short _ small =>
      cases read
      have zeros : ∀ bit ∈ short, bit = false := by simpa using small.2
      exact ⟨short.length, small.1, List.eq_replicate_iff.mpr ⟨rfl, zeros⟩⟩
  | case3 => cases read

theorem bits_of_symbol_injective : Function.Injective bitsOfSymbol := by
  intro left right same
  apply BitVec.eq_of_getLsbD_eq
  intro i inside
  simp only [bitsOfSymbol, List.map_cons, List.map_nil, List.cons.injEq, and_true] at same
  obtain ⟨fifth, fourth, third, second, first⟩ := same
  match i, inside with
  | 0, _ | 1, _ | 2, _ | 3, _ | 4, _ => assumption

theorem length_bits_of_symbols (symbols : List Symbol) :
    (symbols.flatMap bitsOfSymbol).length = 5 * symbols.length := by
  induction symbols with
  | nil => rfl
  | cons symbol rest induction =>
      have five : (bitsOfSymbol symbol).length = 5 := rfl
      rw [List.flatMap_cons, List.length_append, induction, List.length_cons, five]
      omega

theorem bits_of_symbols_injective {left right : List Symbol}
    (same : left.flatMap bitsOfSymbol = right.flatMap bitsOfSymbol) : left = right := by
  induction left generalizing right with
  | nil =>
      cases right with
      | nil => rfl
      | cons => cases same
  | cons symbol rest induction =>
      cases right with
      | nil => cases same
      | cons other others =>
          obtain ⟨head, tail⟩ := List.append_inj same rfl
          rw [bits_of_symbol_injective head, induction tail]

/-- Octets are read from their own symbols only: what is left over must be as many zeros as were
filled in, since both make the bits up to groups of five and are fewer than five. -/
theorem octets_of_symbols_eq_ok_iff {symbols : List Symbol} {bytes : List UInt8} :
    octetsOfSymbols symbols = .ok bytes ↔ symbols = symbolsOfOctets bytes := by
  constructor
  · intro read
    obtain ⟨zeros, few, bits⟩ := bits_of_octets_of_bits read
    obtain ⟨filled, few_filled, written⟩ := bits_of_symbols_of_bits (bytes.flatMap bitsOfOctet)
    have length := length_bits_of_symbols symbols
    have other := length_bits_of_symbols (symbolsOfOctets bytes)
    rw [bits, List.length_append, List.length_replicate] at length
    rw [symbolsOfOctets, written, List.length_append, List.length_replicate] at other
    have same : zeros = filled := by omega
    apply bits_of_symbols_injective
    rw [bits, symbolsOfOctets, written, same]
  · intro same
    rw [same, octets_of_symbols_of_octets]

/-- Bits after octets that are five or more, or not all zero, are refused. -/
theorem octets_of_symbols_of_padding {symbols : List Symbol} {bytes : List UInt8}
    {padding : List Bool} (bits : symbols.flatMap bitsOfSymbol = bytes.flatMap bitsOfOctet ++ padding)
    (short : padding.length < 8) (wrong : 5 ≤ padding.length ∨ true ∈ padding) :
    octetsOfSymbols symbols = .error .invalidPadding := by
  have refused : ¬ (padding.length < 5 ∧ padding.all (! ·) = true) := by
    rintro ⟨few, zeros⟩
    rcases wrong with many | set_bit
    · omega
    · exact absurd (List.all_eq_true.mp zeros true set_bit) Bool.false_ne_true
  rw [octetsOfSymbols, bits, octets_of_bits_append, octets_of_short_bits short, if_neg refused]
  rfl

/-! ## Characters -/

theorem index_of_symbol_char (symbol : Symbol) :
    charset.idxOf? (symbolChar symbol) = some symbol.toNat := by
  have each : ∀ n < 32, charset.idxOf? (symbolChar (BitVec.ofNat 5 n)) = some n := by
    decide
  have here := each symbol.toNat symbol.isLt
  rwa [BitVec.ofNat_toNat, BitVec.setWidth_eq] at here

theorem symbol_char_of_index {c : Char} {value : Nat} (found : charset.idxOf? c = some value) :
    symbolChar (BitVec.ofNat 5 value) = c := by
  obtain ⟨inside, same, -⟩ := List.idxOf?_eq_some_iff.mp found
  have small : value < 32 := inside
  rw [symbolChar, BitVec.toNat_ofNat, Nat.mod_eq_of_lt small, List.getD_eq_getElem _ _ inside, same]

/-- The characters of symbols are no capitals, not the separator, and ASCII. -/
theorem symbol_char_cases (symbol : Symbol) :
    isUpper (symbolChar symbol) = false ∧ symbolChar symbol ≠ '1' ∧
      ¬ 127 < (symbolChar symbol).toNat := by
  have each : ∀ n < 32, isUpper (symbolChar (BitVec.ofNat 5 n)) = false ∧
      symbolChar (BitVec.ofNat 5 n) ≠ '1' ∧ ¬ 127 < (symbolChar (BitVec.ofNat 5 n)).toNat := by
    decide
  have here := each symbol.toNat symbol.isLt
  rwa [BitVec.ofNat_toNat, BitVec.setWidth_eq] at here

theorem symbol_char_injective : Function.Injective symbolChar := by
  intro left right same
  have index := index_of_symbol_char left
  rw [same, index_of_symbol_char right] at index
  exact BitVec.eq_of_toNat_eq (Option.some.inj index).symm

theorem encode_injective {variant : Variant} {hrp text : String} {left right : List Symbol}
    (leftText : encode variant hrp left = .ok text)
    (rightText : encode variant hrp right = .ok text) : left = right := by
  unfold encode at leftText rightText
  cases checked : checkHrp hrp with
  | error e => simp [checked] at leftText
  | ok seen =>
      simp only [checked] at leftText rightText
      have same := (Except.ok.inj leftText).trans (Except.ok.inj rightText).symm
      have chars := congrArg String.toList same
      simp only [String.toList_append, String.toList_ofList, List.append_cancel_left_eq,
        List.cons.injEq, true_and] at chars
      have symbols := List.map_injective_iff.mpr symbol_char_injective chars
      exact (List.append_inj' symbols (by simp [checksum])).1

end Bech32

theorem Address.eq_of_symbols {left right : Address}
    (same : Bech32.symbolsOfOctets left.toList = Bech32.symbolsOfOctets right.toList) :
    left = right := by
  have octets := Octets.ext (Bech32.symbols_of_octets_injective same)
  cases left
  cases right
  exact congrArg Address.mk octets

theorem Address.to_bech32_of_hrp {hrp : String} {seen : Bech32.LetterCase} (address : Address)
    (usable : Bech32.checkHrp hrp = .ok seen) : ∃ text, address.toBech32 hrp = .ok text := by
  rw [toBech32, Bech32.encode, usable]
  exact ⟨_, rfl⟩

theorem Address.encode_of_to_bech32 {hrp text : String} {address : Address}
    (shown : address.toBech32 hrp = .ok text) :
    Bech32.encode .bech32 hrp (Bech32.symbolsOfOctets address.toList) = .ok text := by
  unfold toBech32 at shown
  split at shown
  · rename_i found same
    rw [same]
    exact congrArg Except.ok (Except.ok.inj shown)
  · cases shown

theorem Address.hrp_of_to_bech32 {hrp text : String} {address : Address}
    (shown : address.toBech32 hrp = .ok text) : ∃ seen, Bech32.checkHrp hrp = .ok seen := by
  have encoded := encode_of_to_bech32 shown
  cases checked : Bech32.checkHrp hrp with
  | error e => simp [Bech32.encode, checked] at encoded
  | ok seen => exact ⟨seen, rfl⟩

theorem Address.to_bech32_injective {hrp text : String} {left right : Address}
    (leftText : left.toBech32 hrp = .ok text) (rightText : right.toBech32 hrp = .ok text) :
    left = right := by
  exact eq_of_symbols
    (Bech32.encode_injective (encode_of_to_bech32 leftText) (encode_of_to_bech32 rightText))

end SignedTx
