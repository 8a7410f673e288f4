import Mathlib.Algebra.Group.Nat.Defs
import Mathlib.Data.List.Lex
import SignedTx.Proofs.Text.Hex

/-!
# The order of texts and of their octets

Texts are ordered by their characters, from the left. Their octets in UTF-8 have the same order: a
character's octets spell its number in base 64 after a lead that grows with the count of octets, so
of two characters the smaller one has the smaller octet at the first place where they differ.
-/

set_option autoImplicit false

namespace SignedTx

/-- The octets of a number with `count` places of base 64 after its lead. -/
def leadOctets : (count lead value : Nat) → List UInt8
  | 0, lead, value => [UInt8.ofNat (lead + value)]
  | count + 1, lead, value =>
    leadOctets count lead (value / 64) ++ [UInt8.ofNat (128 + value % 64)]

theorem of_nat_lt {m n : Nat} (small : n < 256) (lt : m < n) : UInt8.ofNat m < UInt8.ofNat n := by
  rw [UInt8.lt_iff_toNat_lt, UInt8.toNat_ofNat', UInt8.toNat_ofNat']
  omega

theorem lead_octets_head (count lead value : Nat) :
    ∃ rest, leadOctets count lead value = UInt8.ofNat (lead + value / 64 ^ count) :: rest := by
  induction count generalizing value with
  | zero => exact ⟨[], by simp [leadOctets]⟩
  | succ count induction =>
      obtain ⟨rest, split⟩ := induction (value / 64)
      refine ⟨rest ++ [UInt8.ofNat (128 + value % 64)], ?_⟩
      rw [leadOctets, split, List.cons_append, Nat.div_div_eq_div_mul, ← Nat.pow_succ']

theorem append_lt_of_heads {count other lead otherLead m n : Nat}
    (small : otherLead + n / 64 ^ other < 256)
    (lt : lead + m / 64 ^ count < otherLead + n / 64 ^ other) (left right : List UInt8) :
    leadOctets count lead m ++ left < leadOctets other otherLead n ++ right := by
  obtain ⟨rest, split⟩ := lead_octets_head count lead m
  obtain ⟨others, otherSplit⟩ := lead_octets_head other otherLead n
  rw [split, otherSplit]
  exact .rel (of_nat_lt small lt)

/-- The induction is on the places: the higher ones decide, and if they agree the last one does. -/
theorem append_lt_of_lt {count lead m n : Nat} (small : lead + n / 64 ^ count < 256) (lt : m < n)
    (left right : List UInt8) :
    leadOctets count lead m ++ left < leadOctets count lead n ++ right := by
  induction count generalizing m n left right with
  | zero =>
      rw [Nat.pow_zero, Nat.div_one] at small
      exact .rel (of_nat_lt small (by omega))
  | succ count induction =>
      have higher : lead + n / 64 / 64 ^ count < 256 := by
        rwa [Nat.div_div_eq_div_mul, ← Nat.pow_succ']
      rw [leadOctets, leadOctets, List.append_assoc, List.append_assoc]
      by_cases before : m / 64 < n / 64
      · exact induction higher before _ _
      · have same : m / 64 = n / 64 := by omega
        rw [same]
        exact List.Lex.append_left _ (.rel (of_nat_lt (by omega) (by omega))) _

theorem encode_char_cases (c : Char) :
    (c.toNat < 0x80 ∧ String.utf8EncodeChar c = leadOctets 0 0 c.toNat) ∨
    (0x80 ≤ c.toNat ∧ c.toNat < 0x800 ∧ String.utf8EncodeChar c = leadOctets 1 192 c.toNat) ∨
    (0x800 ≤ c.toNat ∧ c.toNat < 0x10000 ∧ String.utf8EncodeChar c = leadOctets 2 224 c.toNat) ∨
    (0x10000 ≤ c.toNat ∧ c.toNat < 0x110000 ∧
      String.utf8EncodeChar c = leadOctets 3 240 c.toNat) := by
  have bound : c.toNat < 0x110000 := by
    have valid := c.valid
    simp only [UInt32.isValidChar, Nat.isValidChar] at valid
    change c.val.toNat < _
    omega
  have number : c.val.toNat = c.toNat := rfl
  simp only [String.utf8EncodeChar, number, leadOctets, Nat.div_div_eq_div_mul, List.cons_append,
    List.nil_append]
  by_cases one : c.toNat ≤ 0x7f
  · rw [if_pos one, Nat.zero_add]
    exact .inl ⟨by omega, rfl⟩
  rw [if_neg one]
  by_cases two : c.toNat ≤ 0x7ff
  · rw [if_pos two, Nat.mod_eq_of_lt (by omega)]
    simp only [Nat.add_comm _ 192, Nat.add_comm _ 128]
    exact .inr (.inl ⟨by omega, by omega, trivial⟩)
  rw [if_neg two]
  by_cases three : c.toNat ≤ 0xffff
  · rw [if_pos three, Nat.mod_eq_of_lt (by omega : c.toNat / 4096 < 16)]
    simp only [Nat.add_comm _ 224, Nat.add_comm _ 128]
    exact .inr (.inr (.inl ⟨by omega, by omega, trivial⟩))
  · rw [if_neg three, Nat.mod_eq_of_lt (by omega : c.toNat / 262144 < 8)]
    simp only [Nat.add_comm _ 240, Nat.add_comm _ 128]
    exact .inr (.inr (.inr ⟨by omega, bound, trivial⟩))

/-- Characters with equally many octets differ at some place of their numbers, others at the lead. -/
theorem append_lt_of_char_lt {c d : Char} (lt : c < d) (left right : List UInt8) :
    String.utf8EncodeChar c ++ left < String.utf8EncodeChar d ++ right := by
  have below : c.toNat < d.toNat := lt
  rcases encode_char_cases c with ⟨cHigh, cEq⟩ | ⟨cLow, cHigh, cEq⟩ | ⟨cLow, cHigh, cEq⟩ |
    ⟨cLow, cHigh, cEq⟩ <;>
  rcases encode_char_cases d with ⟨dHigh, dEq⟩ | ⟨dLow, dHigh, dEq⟩ | ⟨dLow, dHigh, dEq⟩ |
    ⟨dLow, dHigh, dEq⟩
  all_goals rw [cEq, dEq]
  -- More octets in the smaller character are impossible, equally many are compared place by place,
  -- and fewer have the smaller lead.
  all_goals first
    | omega
    | exact append_lt_of_lt (by omega) below _ _
    | exact append_lt_of_heads (by omega) (by omega) _ _

theorem encode_chars_lt {left right : List Char} (lt : left < right) :
    left.flatMap String.utf8EncodeChar < right.flatMap String.utf8EncodeChar := by
  induction lt with
  | nil =>
      obtain ⟨octet, others, split⟩ := List.exists_cons_of_ne_nil String.utf8EncodeChar_ne_nil
      rw [List.flatMap_nil, List.flatMap_cons, split]
      exact .nil
  | rel lt => exact append_lt_of_char_lt lt _ _
  | cons _ induction => exact List.Lex.append_left _ induction _

theorem utf8_lt {left right : String} (lt : left < right) : utf8 left < utf8 right := by
  rw [← @String.ofList_toList left, ← @String.ofList_toList right, utf8_of_list, utf8_of_list]
  exact encode_chars_lt lt

end SignedTx
