import SignedTx.Proofs.BigEndian
import SignedTx.Wire.Reader

/-!
# What a reader consumes

`Consumes` is the one fact about reading that everything above the reader uses: no fault is held
before or after, and the reader has moved over exactly the given octets. Each read has two lemmas.
One says which octets it has consumed if it leaves no fault; the other says that it gives back a
value whose octets come next. A reader that holds a fault gives no octets, and nothing else is
claimed of it here.
-/

set_option autoImplicit false

namespace SignedTx.Wire.Reader

/-- The second reader stands right after `bytes` in the first, and neither holds a fault. -/
structure Consumes (before : Reader) (bytes : List UInt8) (after : Reader) : Prop where
  clean_before : before.fault = none
  clean_after : after.fault = none
  rest_eq : before.rest = bytes ++ after.rest
  offset_eq : after.offset = before.offset + bytes.length

variable {before after r : Reader}

theorem consumes_nil_iff : before.Consumes [] after ↔ before.fault = none ∧ after = before := by
  constructor
  · intro consumed
    obtain ⟨rest, offset, fault⟩ := before
    obtain ⟨laterRest, laterOffset, laterFault⟩ := after
    obtain ⟨cleanBefore, cleanAfter, restEq, offsetEq⟩ := consumed
    simp_all
  · intro parts
    rcases parts with ⟨clean, rfl⟩
    exact ⟨clean, clean, rfl, rfl⟩

theorem consumes_append_iff {left right : List UInt8} :
    before.Consumes (left ++ right) after ↔
      ∃ middle, before.Consumes left middle ∧ middle.Consumes right after := by
  constructor
  · intro parts
    rcases parts with ⟨cleanBefore, cleanAfter, restEq, offsetEq⟩
    refine ⟨⟨right ++ after.rest, before.offset + left.length, none⟩,
      ⟨cleanBefore, rfl, by rw [restEq, List.append_assoc], rfl⟩, ⟨rfl, cleanAfter, rfl, ?_⟩⟩
    rw [offsetEq, List.length_append, Nat.add_assoc]
  · intro parts
    rcases parts with ⟨middle, ⟨cleanBefore, -, restEq, offsetEq⟩, ⟨-, cleanAfter, laterRest, laterOffset⟩⟩
    refine ⟨cleanBefore, cleanAfter, ?_, ?_⟩
    · rw [restEq, laterRest, List.append_assoc]
    · rw [laterOffset, offsetEq, List.length_append, Nat.add_assoc]

/-- Where a reader stands after given octets is determined. -/
theorem Consumes.after_eq {bytes : List UInt8} (consumed : before.Consumes bytes after) :
    after = ⟨before.rest.drop bytes.length, before.offset + bytes.length, none⟩ := by
  obtain ⟨rest, offset, fault⟩ := after
  obtain ⟨cleanBefore, cleanAfter, restEq, offsetEq⟩ := consumed
  simp_all

theorem consumes_new (bytes rest : List UInt8) :
    (new (bytes ++ rest)).Consumes bytes ⟨rest, bytes.length, none⟩ :=
  ⟨rfl, rfl, rfl, by simp [new]⟩

/-! ## Octets -/

theorem take_of_fault {n : Nat} {e : FormatError} (faulty : r.fault = some e) :
    r.take n = (none, r) := by
  unfold take
  rw [faulty]
  rfl

/-- A read past the end consumes nothing. -/
theorem take_of_short {n : Nat} (clean : r.fault = none) (short : r.rest.length < n) :
    r.take n = (none, { r with fault := some (.insufficientBytes n r.rest.length) }) := by
  unfold take
  rw [clean, dif_pos short]
  rfl

theorem take_of_consumes {n : Nat} {value : Octets n}
    (consumed : before.Consumes value.toList after) : before.take n = (some value, after) := by
  have enough : ¬ before.rest.length < n := by
    rw [consumed.rest_eq, List.length_append, value.length_toList]
    omega
  have front : before.rest.take n = value.toList := by
    rw [consumed.rest_eq, List.take_left' value.length_toList]
  rw [take, consumed.clean_before, dif_neg enough, consumed.after_eq, value.length_toList]
  simp only [Option.isSome_none, Bool.false_eq_true, if_false, Prod.mk.injEq, Option.some.injEq]
  exact ⟨Octets.ext front, trivial⟩

theorem consumes_of_take {n : Nat} (clean : (r.take n).2.fault = none) :
    ∃ value : Octets n, (r.take n).1 = some value ∧ r.Consumes value.toList (r.take n).2 := by
  unfold take at clean ⊢
  split at clean
  · rename_i faulty
    rw [show r.fault = none from clean] at faulty
    cases faulty
  · rename_i notFaulty
    split at clean
    · simp at clean
    · rename_i enough
      rw [if_neg notFaulty, dif_neg enough]
      refine ⟨_, rfl, ⟨clean, clean, (List.take_append_drop n r.rest).symm, ?_⟩⟩
      simp only [List.length_take]
      omega

theorem octets_of_consumes {n : Nat} {value : Octets n}
    (consumed : before.Consumes value.toList after) : before.octets n = (value, after) := by
  rw [octets, take_of_consumes consumed]
  rfl

theorem consumes_of_octets {n : Nat} (clean : (r.octets n).2.fault = none) :
    r.Consumes (r.octets n).1.toList (r.octets n).2 := by
  obtain ⟨value, found, consumed⟩ := consumes_of_take clean
  have same : (r.octets n).1 = value := by simp [octets, found]
  rw [same]
  exact consumed

/-! ## Values of fixed width -/

theorem byte_of_consumes {value : UInt8} (consumed : before.Consumes [value] after) :
    before.byte = (value, after) := by
  have single : before.octets 1 = (⟨[value], rfl⟩, after) := octets_of_consumes consumed
  rw [byte, single]
  rfl

theorem consumes_of_byte (clean : r.byte.2.fault = none) : r.Consumes [r.byte.1] r.byte.2 := by
  have consumed : r.Consumes (r.octets 1).1.toList r.byte.2 := consumes_of_octets clean
  obtain ⟨value, single⟩ := List.length_eq_one_iff.mp (r.octets 1).1.length_toList
  have same : r.byte.1 = value := by simp [byte, single]
  rwa [same, ← single]

theorem bool_of_consumes {value : Bool} (consumed : before.Consumes [value.toUInt8] after) :
    before.bool = (value, after) := by
  rw [bool, byte_of_consumes consumed]
  cases value <;> rfl

theorem consumes_of_bool (clean : r.bool.2.fault = none) :
    r.Consumes [r.bool.1.toUInt8] r.bool.2 := by
  unfold bool at clean ⊢
  by_cases zero : r.byte.1 = 0
  · simp only [zero, if_true] at clean ⊢
    have consumed := consumes_of_byte clean
    rwa [zero] at consumed
  · by_cases one : r.byte.1 = 1
    · simp only [one, if_true] at clean ⊢
      have consumed := consumes_of_byte clean
      rwa [one] at consumed
    · simp only [zero, one, if_false, fail] at clean
      split at clean
      · rename_i faulty
        simp [clean] at faulty
      · simp at clean

theorem uint64_of_consumes {value : UInt64} (consumed : before.Consumes (ofUInt64 value) after) :
    before.uint64 = (value, after) := by
  have word : before.octets 8 = (⟨ofUInt64 value, by simp [ofUInt64]⟩, after) :=
    octets_of_consumes consumed
  rw [uint64, word]
  simp only [to_uint64_of_uint64]

theorem consumes_of_uint64 (clean : r.uint64.2.fault = none) :
    r.Consumes (ofUInt64 r.uint64.1) r.uint64.2 := by
  have consumed := consumes_of_octets (n := 8) clean
  rw [← of_uint64_to_uint64 (r.octets 8).1.length_toList] at consumed
  exact consumed

theorem int64_of_consumes {value : Int64} (consumed : before.Consumes (ofInt64 value) after) :
    before.int64 = (value, after) := by
  have word : before.octets 8 = (⟨ofInt64 value, by simp [ofInt64]⟩, after) :=
    octets_of_consumes consumed
  rw [int64, word]
  simp only [to_int64_of_int64]

theorem consumes_of_int64 (clean : r.int64.2.fault = none) :
    r.Consumes (ofInt64 r.int64.1) r.int64.2 := by
  have consumed := consumes_of_octets (n := 8) clean
  rw [← of_int64_to_int64 (r.octets 8).1.length_toList] at consumed
  exact consumed

theorem id_of_consumes {value : Identifier} (consumed : before.Consumes value.toList after) :
    before.id = (value, after) := by
  have found : before.octets 32 = (value.toOctets, after) := octets_of_consumes consumed
  rw [id, found]

theorem consumes_of_id (clean : r.id.2.fault = none) : r.Consumes r.id.1.toList r.id.2 :=
  consumes_of_octets (n := 32) clean

theorem address_of_consumes {value : Address} (consumed : before.Consumes value.toList after) :
    before.address = (value, after) := by
  have found : before.octets 33 = (value.toOctets, after) := octets_of_consumes consumed
  rw [address, found]

theorem consumes_of_address (clean : r.address.2.fault = none) :
    r.Consumes r.address.1.toList r.address.2 :=
  consumes_of_octets (n := 33) clean

/-! ## The end -/

/-- A reader over octets finishes without complaint only if all of them have been consumed. -/
theorem finish_eq_ok_iff : r.finish = .ok () ↔ r.fault = none ∧ r.rest = [] := by
  unfold finish
  cases r.fault with
  | some fault => simp
  | none =>
      cases r.rest with
      | nil => simp
      | cons byte rest => simp

end SignedTx.Wire.Reader
