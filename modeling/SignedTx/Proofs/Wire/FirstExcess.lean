import Mathlib.Order.Nat
import SignedTx.Proofs.Wire.Writer

/-!
# Where a writer stops

A run of writes has at most one place that decides it: the first write with which the octets asked
for so far pass the limit. Without such a place everything is written. With one, what stands before
it is written, the fault names the limit and the octets asked for up to there, and no write after it
is seen. Lengths are those of octets that a machine word can count.
-/

set_option autoImplicit false

namespace SignedTx.Wire

/-- The count of octets asked for with the write at a place and all before it. -/
def lengthThrough (fields : List Field) (place : Nat) : Nat :=
  (encodeFields (fields.take (place + 1))).length

/-- The write at a place is the first one with which the octets pass the limit. -/
structure FirstExcess (limit : Nat) (fields : List Field) (place : Nat) : Prop where
  inside : place < fields.length
  exceeds : limit < lengthThrough fields place
  first : ∀ earlier < place, lengthThrough fields earlier ≤ limit

variable {limit place : Nat} {fields : List Field}

theorem exists_first_excess (exceeds : limit < (encodeFields fields).length) :
    ∃ place, FirstExcess limit fields place := by
  have some_place : ∃ place, place < fields.length ∧ limit < lengthThrough fields place := by
    cases fields with
    | nil => cases exceeds
    | cons field rest =>
        refine ⟨rest.length, Nat.lt_succ_self _, ?_⟩
        rw [lengthThrough, ← List.length_cons, List.take_length]
        exact exceeds
  obtain ⟨inside, passed⟩ := Nat.find_spec some_place
  refine ⟨Nat.find some_place, inside, passed, ?_⟩
  intro earlier before
  by_contra passes
  exact Nat.find_min some_place before ⟨Nat.lt_trans before inside, Nat.lt_of_not_le passes⟩

namespace FirstExcess

theorem fits_before (excess : FirstExcess limit fields place) :
    (encodeFields (fields.take place)).length ≤ limit := by
  cases place with
  | zero => exact Nat.zero_le limit
  | succ earlier => exact excess.first earlier (Nat.lt_succ_self earlier)

end FirstExcess

end SignedTx.Wire
