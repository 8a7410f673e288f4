import Mathlib.Data.List.GetD
import Mathlib.Data.Nat.Digits.Lemmas
import SignedTx.Identifier
import SignedTx.Proofs.Outcome
import SignedTx.Proofs.Text.Front

/-!
# Base 58 loses nothing

A list of digits is its leading zeros and the digits of its value, in any base. Both parts are kept
when octets are encoded and when a text is decoded, so octets and the texts that can be decoded are
in one-to-one correspondence, and an id's text form is the text that it was read from. A leading one
of a text is a leading zero octet and nothing else.
-/

set_option autoImplicit false

namespace SignedTx

namespace Base58

/-! ## Digits and octets of a number -/

theorem digits_up_eq (n : Nat) : digitsUp n = Nat.digits 58 n := by
  fun_induction digitsUp n with
  | case1 => exact Nat.digits_zero 58 |>.symm
  | case2 n positive induction =>
      rw [induction, Nat.digits_def' (by decide) (Nat.pos_of_ne_zero positive)]

theorem small_digits_up {n digit : Nat} (listed : digit ∈ digitsUp n) : digit < 58 := by
  rw [digits_up_eq] at listed
  exact Nat.digits_lt_base (by decide) listed

/-- The value of digits, the most significant first. -/
def valueOf (digits : List Nat) : Nat := digits.foldl (fun n digit => 58 * n + digit) 0

theorem value_of_eq (digits : List Nat) : valueOf digits = Nat.ofDigits 58 digits.reverse := by
  rw [valueOf, Nat.ofDigits_eq_foldr, List.foldr_reverse]
  simp only [Nat.cast_id, Nat.add_comm]

theorem value_of_zeros (count : Nat) (digits : List Nat) :
    valueOf (List.replicate count 0 ++ digits) = valueOf digits := by
  rw [value_of_eq, value_of_eq, List.reverse_append, List.reverse_replicate,
    Nat.ofDigits_append_replicate_zero]

theorem be_nat_of_zeros (count : Nat) (octets : List UInt8) :
    beNat (List.replicate count 0 ++ octets) = beNat octets := by
  induction count with
  | zero => rfl
  | succ count induction => exact induction

theorem value_of_digits_up (n : Nat) : valueOf (digitsUp n).reverse = n := by
  rw [value_of_eq, List.reverse_reverse, digits_up_eq, Nat.ofDigits_digits]

theorem be_nat_octets_up (n : Nat) : beNat (octetsUp n).reverse = n := by
  fun_induction octetsUp n with
  | case1 => rfl
  | case2 n positive induction =>
      rw [List.reverse_cons, beNat_append_singleton, induction, UInt8.toNat_ofNat']
      exact Nat.div_add_mod n 256

theorem digits_up_value_of {digits : List Nat} (small : ∀ digit ∈ digits, digit < 58)
    (first : digits.head? ≠ some 0) : digitsUp (valueOf digits) = digits.reverse := by
  rw [digits_up_eq, value_of_eq]
  apply Nat.digits_ofDigits 58 (by decide)
  · intro digit listed
    exact small digit (List.mem_reverse.mp listed)
  · intro some_digit zero
    rw [List.getLast_reverse] at zero
    exact first (List.head?_eq_some_head _ ▸ congrArg some zero)

/-- The induction takes the last octet off, as the octets of a number are made. -/
theorem octets_up_be_nat {octets : List UInt8} (first : octets.head? ≠ some 0) :
    octetsUp (beNat octets) = octets.reverse := by
  induction octets using List.reverseRecOn with
  | nil => rw [beNat_nil, octetsUp, dif_pos rfl, List.reverse_nil]
  | append_singleton front byte induction =>
      have bounded := byte.toNat_lt
      have before : octetsUp (beNat front) = front.reverse := by
        apply induction
        intro zero
        exact first (by rw [List.head?_append, zero]; rfl)
      have positive : beNat (front ++ [byte]) ≠ 0 := by
        rw [beNat_append_singleton]
        intro zero
        have none_before : front.reverse = [] := by
          rw [← before, octetsUp, dif_pos (by omega)]
        have last : byte = 0 := UInt8.toNat_inj.mp (by rw [UInt8.toNat_zero]; omega)
        rw [List.reverse_eq_nil_iff.mp none_before, last] at first
        exact first rfl
      have quotient : (256 * beNat front + byte.toNat) / 256 = beNat front := by omega
      have remainder : UInt8.ofNat (256 * beNat front + byte.toNat) = byte := by
        apply UInt8.toNat_inj.mp
        rw [UInt8.toNat_ofNat']
        omega
      rw [octetsUp, dif_neg positive, beNat_append_singleton, quotient, remainder, before,
        List.reverse_append]
      rfl

/-- Without zeros in front the digits would be those of the same number. -/
theorem head_digits_up (n : Nat) : (digitsUp n).reverse.head? ≠ some 0 := by
  obtain ⟨count, tail, split, first⟩ := Front.exists_leading 0 (digitsUp n).reverse
  have number : valueOf tail = n := by rw [← value_of_zeros count, ← split, value_of_digits_up]
  have small : ∀ digit ∈ tail, digit < 58 := by
    intro digit listed
    have inside : digit ∈ (digitsUp n).reverse := split ▸ List.mem_append_right _ listed
    exact small_digits_up (List.mem_reverse.mp inside)
  rwa [← number, digits_up_value_of small first, List.reverse_reverse]

theorem head_octets_up (n : Nat) : (octetsUp n).reverse.head? ≠ some 0 := by
  obtain ⟨count, tail, split, first⟩ := Front.exists_leading 0 (octetsUp n).reverse
  have number : beNat tail = n := by rw [← be_nat_of_zeros count, ← split, be_nat_octets_up]
  rwa [← number, octets_up_be_nat first, List.reverse_reverse]

/-! ## Digits of octets -/

/-- The digits of octets: a zero for each leading zero, then those of the number. -/
def digitsOf (octets : List UInt8) : List Nat :=
  (octets.takeWhile (· = 0)).map (fun _ => 0) ++ (digitsUp (beNat octets)).reverse

/-- The octets of digits: a zero for each leading zero, then those of the value. -/
def octetsOf (digits : List Nat) : List UInt8 :=
  (digits.takeWhile (· = 0)).map (fun _ => 0) ++ (octetsUp (valueOf digits)).reverse

theorem digits_of_leading {tail : List UInt8} (first : tail.head? ≠ some 0) (count : Nat) :
    digitsOf (List.replicate count 0 ++ tail) =
      List.replicate count 0 ++ (digitsUp (beNat tail)).reverse := by
  rw [digitsOf, Front.leading_eq first, be_nat_of_zeros, List.map_replicate]

theorem octets_of_leading {tail : List Nat} (first : tail.head? ≠ some 0) (count : Nat) :
    octetsOf (List.replicate count 0 ++ tail) =
      List.replicate count 0 ++ (octetsUp (valueOf tail)).reverse := by
  rw [octetsOf, Front.leading_eq first, value_of_zeros, List.map_replicate]

theorem octets_of_digits_of (octets : List UInt8) : octetsOf (digitsOf octets) = octets := by
  obtain ⟨count, tail, rfl, first⟩ := Front.exists_leading 0 octets
  rw [digits_of_leading first, octets_of_leading (head_digits_up _), value_of_digits_up,
    octets_up_be_nat first, List.reverse_reverse]

theorem digits_of_octets_of {digits : List Nat} (small : ∀ digit ∈ digits, digit < 58) :
    digitsOf (octetsOf digits) = digits := by
  obtain ⟨count, tail, rfl, first⟩ := Front.exists_leading 0 digits
  have small_tail : ∀ digit ∈ tail, digit < 58 := by
    intro digit listed
    exact small digit (List.mem_append_right _ listed)
  rw [octets_of_leading first, digits_of_leading (head_octets_up _), be_nat_octets_up,
    digits_up_value_of small_tail first, List.reverse_reverse]

theorem small_digits_of {octets : List UInt8} {digit : Nat} (listed : digit ∈ digitsOf octets) :
    digit < 58 := by
  rcases List.mem_append.mp listed with leading | inNumber
  · obtain ⟨_, -, rfl⟩ := List.mem_map.mp leading
    decide
  · exact small_digits_up (List.mem_reverse.mp inNumber)

/-! ## Texts -/

theorem encode_eq (octets : List UInt8) :
    encode octets = String.ofList ((digitsOf octets).map digitChar) := by
  rw [encode, digitsOf, List.map_append, List.map_map]
  rfl

theorem decode_eq (text : String) : decode text = (values 0 text.toList).map octetsOf := rfl

theorem digit_char_of_index {c : Char} {value : Nat} (found : alphabet.idxOf? c = some value) :
    digitChar value = c ∧ value < 58 := by
  obtain ⟨inside, same, -⟩ := List.idxOf?_eq_some_iff.mp found
  exact ⟨by rw [digitChar, List.getD_eq_getElem _ _ inside, same], inside⟩

theorem index_of_digit_char {digit : Nat} (small : digit < 58) :
    ¬ 127 < (digitChar digit).toNat ∧ alphabet.idxOf? (digitChar digit) = some digit := by
  have ascii : alphabet.all (·.toNat ≤ 127) = true := by decide
  have ascending : alphabet.Pairwise (· < ·) := List.isChain_iff_pairwise.mp (by decide)
  have inside : digit < alphabet.length := small
  have char : digitChar digit = alphabet[digit] := List.getD_eq_getElem _ _ inside
  have small_char : alphabet[digit].toNat ≤ 127 :=
    of_decide_eq_true (List.all_eq_true.mp ascii _ (List.getElem_mem inside))
  refine ⟨by rw [char]; omega, List.idxOf?_eq_some_iff.mpr ⟨inside, char.symm, ?_⟩⟩
  intro earlier before same
  have below := List.pairwise_iff_getElem.mp ascending earlier digit (by omega) inside before
  rw [same, char] at below
  exact Char.lt_irrefl _ below

theorem text_of_values {text : List Char} {index : Nat} {digits : List Nat}
    (read : values index text = .ok digits) :
    digits.map digitChar = text ∧ ∀ digit ∈ digits, digit < 58 := by
  induction text generalizing index digits with
  | nil =>
      cases read
      exact ⟨rfl, nofun⟩
  | cons c rest induction =>
      obtain ⟨-, read⟩ := Outcome.refusal_eq_ok_iff.1 read
      cases found : alphabet.idxOf? c with
      | none => simp [found] at read
      | some value =>
          simp only [found, Outcome.map_eq_ok_iff] at read
          obtain ⟨others, later, rfl⟩ := read
          obtain ⟨char, small⟩ := digit_char_of_index found
          obtain ⟨chars, others_small⟩ := induction later
          rw [List.map_cons, char, chars, List.forall_mem_cons]
          exact ⟨rfl, small, others_small⟩

theorem values_of_digits {digits : List Nat} (small : ∀ digit ∈ digits, digit < 58)
    (index : Nat) : values index (digits.map digitChar) = .ok digits := by
  induction digits generalizing index with
  | nil => rfl
  | cons digit rest induction =>
      obtain ⟨ascii, found⟩ := index_of_digit_char (small digit (by simp))
      have later := induction (fun other listed => small other (by simp [listed])) (index + 1)
      rw [List.map_cons, values, if_neg ascii]
      simp only [found, later]
      rfl

/-- A text that can be decoded is the text of what it is decoded to. -/
theorem encode_of_decode {text : String} {bytes : List UInt8} (decoded : decode text = .ok bytes) :
    encode bytes = text := by
  rw [decode_eq, Outcome.map_eq_ok_iff] at decoded
  obtain ⟨digits, read, rfl⟩ := decoded
  obtain ⟨chars, small⟩ := text_of_values read
  rw [encode_eq, digits_of_octets_of small, chars, String.ofList_toList]

/-- Octets are decoded from their text. -/
theorem decode_encode (octets : List UInt8) : decode (encode octets) = .ok octets := by
  have small : ∀ digit ∈ digitsOf octets, digit < 58 := fun _ => small_digits_of
  rw [decode_eq, encode_eq, String.toList_ofList, values_of_digits small]
  exact congrArg Except.ok (octets_of_digits_of octets)

/-! ## Leading ones -/

theorem encode_zero_cons (octets : List UInt8) :
    (encode (0 :: octets)).toList = '1' :: (encode octets).toList := by
  have number : beNat (0 :: octets) = beNat octets := be_nat_of_zeros 1 octets
  simp [encode, number]

theorem encode_zeros_append (count : Nat) (octets : List UInt8) :
    (encode (List.replicate count 0 ++ octets)).toList =
      List.replicate count '1' ++ (encode octets).toList := by
  induction count with
  | zero => rfl
  | succ count induction =>
      rw [List.replicate_succ, List.cons_append, encode_zero_cons, induction]
      rfl

theorem octets_of_zero_cons (digits : List Nat) :
    octetsOf (0 :: digits) = 0 :: octetsOf digits := by
  have number : valueOf (0 :: digits) = valueOf digits := value_of_zeros 1 digits
  simp [octetsOf, number]

/-- A one at the beginning of a text comes from a zero octet only. -/
theorem zero_of_leading_one {octets : List UInt8} {rest : List Char}
    (text : (encode octets).toList = '1' :: rest) :
    ∃ others, octets = 0 :: others ∧ (encode others).toList = rest := by
  rw [encode_eq, String.toList_ofList, List.map_eq_cons_iff] at text
  obtain ⟨digit, later, split, char, chars⟩ := text
  have small : ∀ digit ∈ digitsOf octets, digit < 58 := fun _ => small_digits_of
  rw [split, List.forall_mem_cons] at small
  have zero : digit = 0 := by
    have one : alphabet.idxOf? '1' = some 0 := by decide
    have found := (index_of_digit_char small.1).2
    rw [char, one] at found
    exact (Option.some.inj found).symm
  subst zero
  refine ⟨octetsOf later, ?_, ?_⟩
  · rw [← octets_of_zero_cons, ← split, octets_of_digits_of]
  · rw [encode_eq, digits_of_octets_of small.2, String.toList_ofList, chars]

end Base58

namespace Identifier

theorem of_list_eq_ok_iff {bytes : List UInt8} {id : Identifier} :
    ofList? bytes = .ok id ↔ id.toList = bytes := by
  rw [← Octets.ofList?_eq_some_iff, ofList?]
  cases taken : Octets.ofList? 32 bytes with
  | some octets =>
      cases id
      simp
  | none => simp

/-- An id that is read from a text has that text. -/
theorem to_text_of_text {hash : HashFunction} {text : String} {id : Identifier}
    (read : ofText hash text = .ok id) : id.toText hash = text := by
  unfold ofText at read
  cases decoded : Base58.decode text with
  | error e => simp [decoded] at read
  | ok raw =>
      simp only [decoded, Outcome.refusal_eq_ok_iff, ne_eq, not_not] at read
      obtain ⟨-, checked, taken⟩ := read
      rw [toText, of_list_eq_ok_iff.1 taken, ← checked, List.take_append_drop]
      exact Base58.encode_of_decode decoded

end Identifier
end SignedTx
