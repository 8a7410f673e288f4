import Mathlib.Data.List.Induction
import Mathlib.Tactic.Ring
import SignedTx.Wire.Field

/-!
# Big-endian numbers

Octets of a known count and the numbers below the matching power of 256 stand for each other, in
both directions. Every fixed-width field of the wire form and every word of a struct hash rests on this.
-/

set_option autoImplicit false

namespace SignedTx

theorem be_nat_lt (bytes : List UInt8) : beNat bytes < 256 ^ bytes.length := by
  induction bytes using List.reverseRecOn with
  | nil => simp
  | append_singleton bytes byte induction =>
      have bounded := byte.toNat_lt
      simp only [beNat_append_singleton, List.length_append, List.length_cons, List.length_nil,
        Nat.zero_add, pow_succ]
      omega

theorem be_nat_be_bytes (width value : Nat) :
    beNat (beBytes width value) = value % 256 ^ width := by
  induction width generalizing value with
  | zero => simp [beBytes, Nat.mod_one]
  | succ width induction =>
      have low : (UInt8.ofNat value).toNat = value % 256 := by simp
      rw [beBytes, beNat_append_singleton, induction, low, pow_succ', Nat.mod_mul]
      ring

/-- Octets of one count are told apart by the number that they spell. -/
theorem be_nat_injective {left right : List UInt8} (length : left.length = right.length)
    (same : beNat left = beNat right) : left = right := by
  induction left using List.reverseRecOn generalizing right with
  | nil => exact (List.length_eq_zero_iff.mp length.symm).symm
  | append_singleton left byte induction =>
      rcases right.eq_nil_or_concat with empty | ⟨rest, other, split⟩
      · simp [empty] at length
      · rw [List.concat_eq_append] at split
        subst split
        simp only [List.length_append, List.length_cons, List.length_nil] at length
        simp only [beNat_append_singleton] at same
        have byteBound := byte.toNat_lt
        have otherBound := other.toNat_lt
        have heads : left = rest := induction (by omega) (by omega)
        have lasts : byte = other := UInt8.toNat_inj.mp (by omega)
        rw [heads, lasts]

theorem be_bytes_be_nat (bytes : List UInt8) : beBytes bytes.length (beNat bytes) = bytes := by
  apply be_nat_injective (length_beBytes _ _)
  rw [be_nat_be_bytes, Nat.mod_eq_of_lt (be_nat_lt bytes)]

namespace Octets

variable {n : Nat}

theorem to_nat_lt (value : Octets n) : value.toNat < 256 ^ n := by
  have bounded := be_nat_lt value.toList
  rwa [value.length_toList] at bounded

theorem to_nat_of_nat (value : Nat) : (ofNat n value).toNat = value % 256 ^ n :=
  be_nat_be_bytes n value

end Octets

namespace Wire

theorem of_uint64_to_uint64 {bytes : List UInt8} (length : bytes.length = 8) :
    ofUInt64 (toUInt64 bytes) = bytes := by
  have bounded : beNat bytes < 2 ^ 64 := by simpa [length] using be_nat_lt bytes
  have value : (toUInt64 bytes).toNat = beNat bytes := by
    simp only [toUInt64, UInt64.toNat_ofNat']
    exact Nat.mod_eq_of_lt bounded
  rw [ofUInt64, value, ← length, be_bytes_be_nat]

theorem to_uint64_of_uint64 (value : UInt64) : toUInt64 (ofUInt64 value) = value := by
  have bounded : value.toNat < 256 ^ 8 := value.toNat_lt
  rw [toUInt64, ofUInt64, be_nat_be_bytes, Nat.mod_eq_of_lt bounded]
  simp

theorem of_int64_to_int64 {bytes : List UInt8} (length : bytes.length = 8) :
    ofInt64 (toInt64 bytes) = bytes := by
  rw [toInt64, ofInt64, UInt64.toUInt64_toInt64]
  exact of_uint64_to_uint64 length

theorem to_int64_of_int64 (value : Int64) : toInt64 (ofInt64 value) = value := by
  have word := to_uint64_of_uint64 value.toUInt64
  simp only [ofUInt64] at word
  rw [toInt64, ofInt64, word, Int64.toInt64_toUInt64]

end Wire
end SignedTx
