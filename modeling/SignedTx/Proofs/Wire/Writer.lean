import SignedTx.Wire.Writer

/-!
# What a writer admits

Fields that fit the limit in sum are all written, one after the other, and what a writer gives is
always all of them. If they do not fit, there is a first field that passes the limit: what stands
before it is written, the fault tells how long the octets would have been with it, and nothing that
comes after it changes the writer.
-/

set_option autoImplicit false

namespace SignedTx.Wire

theorem encode_fields_append (left right : List Field) :
    encodeFields (left ++ right) = encodeFields left ++ encodeFields right := by
  simp [encodeFields]

namespace Writer

theorem append_of_fits {w : Writer} {bytes : List UInt8} (clean : w.fault = none)
    (fits : w.bytes.length + bytes.length ≤ w.limit) :
    w.append bytes = { w with bytes := w.bytes ++ bytes } := by
  have admitted : ¬ w.limit < min (w.bytes.length + bytes.length) maxCount := by omega
  simp [append, isPoisoned, clean, admitted]

theorem put_all_of_fits (fields : List Field) {w : Writer} (clean : w.fault = none)
    (fits : w.bytes.length + (encodeFields fields).length ≤ w.limit) :
    w.putAll fields = { w with bytes := w.bytes ++ encodeFields fields } := by
  induction fields generalizing w with
  | nil => simp [putAll]
  | cons field fields induction =>
      rw [encodeFields_cons, List.length_append] at fits
      have first : w.put field = { w with bytes := w.bytes ++ field.encode } :=
        append_of_fits clean (by omega)
      have later := induction (w := w.put field) (by rw [first]; exact clean)
        (by simp only [first, List.length_append]; omega)
      rw [first] at later
      change (w.put field).putAll fields = _
      rw [first, later, encodeFields_cons, List.append_assoc]

/-! ## Fields that do not fit -/

theorem bytes_of_append_clean {w : Writer} {bytes : List UInt8}
    (clean : (w.append bytes).fault = none) :
    w.fault = none ∧ (w.append bytes).bytes = w.bytes ++ bytes := by
  unfold append at clean ⊢
  by_cases poisoned : w.isPoisoned = true
  · rw [if_pos poisoned] at clean
    rw [isPoisoned, clean] at poisoned
    cases poisoned
  · rw [if_neg poisoned] at clean ⊢
    by_cases beyond : w.limit < min (w.bytes.length + bytes.length) maxCount
    · rw [if_pos beyond] at clean
      cases clean
    · rw [if_neg beyond] at clean ⊢
      exact ⟨clean, rfl⟩

/-- A writer without a fault has written all fields. -/
theorem bytes_of_put_all_clean (fields : List Field) {w : Writer}
    (clean : (w.putAll fields).fault = none) :
    w.fault = none ∧ (w.putAll fields).bytes = w.bytes ++ encodeFields fields := by
  induction fields generalizing w with
  | nil => exact ⟨clean, by simp [putAll]⟩
  | cons field fields induction =>
      obtain ⟨first, later⟩ := induction (w := w.put field) clean
      obtain ⟨before, written⟩ := bytes_of_append_clean first
      refine ⟨before, ?_⟩
      change ((w.put field).putAll fields).bytes = _
      rw [later, put, written, encodeFields_cons, List.append_assoc]

end Writer

theorem eq_of_write_eq_ok {limit : Nat} {fields : List Field} {bytes : List UInt8}
    (written : write limit fields = .ok bytes) : bytes = encodeFields fields := by
  unfold write Writer.toBytes at written
  cases fault : ((Writer.new limit).putAll fields).fault with
  | some e => simp [fault] at written
  | none =>
      rw [fault] at written
      obtain ⟨-, whole⟩ := Writer.bytes_of_put_all_clean fields fault
      rw [← Except.ok.inj written, whole]
      rfl

theorem write_of_fits {limit : Nat} {fields : List Field}
    (fits : (encodeFields fields).length ≤ limit) :
    write limit fields = .ok (encodeFields fields) := by
  have written := Writer.put_all_of_fits fields (w := Writer.new limit) rfl
    (by simpa [Writer.new] using fits)
  rw [write, written]
  rfl

end SignedTx.Wire
