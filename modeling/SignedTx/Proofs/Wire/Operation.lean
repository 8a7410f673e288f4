import SignedTx.Proofs.Wire.Reader

/-!
# Operations on a reader

What can be done to a reader from outside: reads and complaints, one after the other. A latched
fault makes every later operation do nothing, so a reader that holds no fault in the end has held
none at any point, and each of its reads gave what came next. If it does hold one, the operation
that latched it can be pointed at.
-/

set_option autoImplicit false

namespace SignedTx.Wire.Reader

inductive Operation
  | get (shape : Shape)
  | octets (count : Nat)
  | fail (cause : FormatError)
deriving DecidableEq

namespace Operation

/-- The octets that the operation takes up when it succeeds. -/
def width : Operation → Nat
  | .get shape => shape.width
  | .octets count => count
  | .fail _ => 0

def widths (operations : List Operation) : Nat := (operations.map width).sum

end Operation

def perform (r : Reader) : Operation → Reader
  | .get shape => (r.get shape).2
  | .octets count => (r.octets count).2
  | .fail cause => r.fail cause

def performAll (r : Reader) (operations : List Operation) : Reader := operations.foldl perform r

/-- The operation is a read, and its value is what came next. -/
def Delivers (r : Reader) : Operation → Prop
  | .get shape => r.Consumes (r.get shape).1.encode (r.get shape).2
  | .octets count => r.Consumes (r.octets count).1.toList (r.octets count).2
  | .fail _ => False

/-- Every operation of the list delivers where the ones before it have left the reader. -/
def Undisturbed : Reader → List Operation → Prop
  | _, [] => True
  | r, operation :: later => r.Delivers operation ∧ (r.perform operation).Undisturbed later

variable {r : Reader} {operation : Operation} {operations : List Operation}

@[simp] theorem perform_all_nil : r.performAll [] = r := rfl

@[simp] theorem perform_all_cons :
    r.performAll (operation :: operations) = (r.perform operation).performAll operations := rfl

@[simp] theorem perform_all_append {earlier later : List Operation} :
    r.performAll (earlier ++ later) = (r.performAll earlier).performAll later :=
  List.foldl_append

/-! ## A latched fault -/

theorem fail_of_fault {cause e : FormatError} (faulty : r.fault = some e) : r.fail cause = r := by
  rw [fail, faulty]
  rfl

theorem perform_of_fault {e : FormatError} (faulty : r.fault = some e) :
    r.perform operation = r := by
  cases operation with
  | get shape =>
      cases shape <;>
        simp [perform, get, byte, bool, uint64, int64, bytes, id, address, octets,
          take_of_fault faulty, Octets.zero]
  | octets count => simp [perform, octets, take_of_fault faulty]
  | fail cause => exact fail_of_fault faulty

/-- After a fault nothing moves. -/
theorem perform_all_of_fault {e : FormatError} (faulty : r.fault = some e) :
    r.performAll operations = r := by
  induction operations with
  | nil => rfl
  | cons operation later induction =>
      rw [perform_all_cons, perform_of_fault faulty]
      exact induction

/-! ## One operation without a fault -/

theorem consumes_of_bytes {n : Nat} (clean : (r.bytes n).2.fault = none) :
    r.Consumes (r.bytes n).1 (r.bytes n).2 ∧ (r.bytes n).1.length = n := by
  obtain ⟨value, found, consumed⟩ := consumes_of_take clean
  have same : (r.bytes n).1 = value.toList := by simp [bytes, found]
  rw [same]
  exact ⟨consumed, value.length_toList⟩

theorem consumes_of_get {shape : Shape} (clean : (r.get shape).2.fault = none) :
    r.Consumes (r.get shape).1.encode (r.get shape).2 ∧ (r.get shape).1.shape = shape := by
  cases shape with
  | byte => exact ⟨consumes_of_byte clean, rfl⟩
  | bool => exact ⟨consumes_of_bool clean, rfl⟩
  | uint64 => exact ⟨consumes_of_uint64 clean, rfl⟩
  | int64 => exact ⟨consumes_of_int64 clean, rfl⟩
  | bytes length =>
      obtain ⟨consumed, complete⟩ := consumes_of_bytes clean
      exact ⟨consumed, congrArg Shape.bytes complete⟩
  | id => exact ⟨consumes_of_id clean, rfl⟩
  | address => exact ⟨consumes_of_address clean, rfl⟩

theorem fault_of_fail {cause : FormatError} : (r.fail cause).fault ≠ none := by
  cases held : r.fault with
  | none => simp [fail, held]
  | some e => simp [fail_of_fault held, held]

theorem perform_clean_iff : (r.perform operation).fault = none ↔ r.Delivers operation := by
  cases operation with
  | get shape => exact ⟨fun clean => (consumes_of_get clean).1, Consumes.clean_after⟩
  | octets count => exact ⟨consumes_of_octets, Consumes.clean_after⟩
  | fail cause => exact ⟨fault_of_fail, False.elim⟩

/-- What delivers takes up octets, as many as its width says. -/
theorem Delivers.consumes (delivered : r.Delivers operation) :
    ∃ bytes, r.Consumes bytes (r.perform operation) ∧ bytes.length = operation.width := by
  cases operation with
  | get shape =>
      have shaped := (consumes_of_get delivered.clean_after).2
      refine ⟨_, delivered, ?_⟩
      rw [length_encode, shaped]
      rfl
  | octets count => exact ⟨_, delivered, Octets.length_toList _⟩
  | fail cause => exact delivered.elim

/-! ## Runs -/

/-- No fault in the end means none at any point. -/
theorem perform_all_clean_iff :
    (r.performAll operations).fault = none ↔ r.fault = none ∧ r.Undisturbed operations := by
  induction operations generalizing r with
  | nil => simp [Undisturbed]
  | cons operation later induction =>
      rw [perform_all_cons, induction, perform_clean_iff, Undisturbed]
      constructor
      · intro parts
        obtain ⟨bytes, consumed, -⟩ := parts.1.consumes
        exact ⟨consumed.clean_before, parts⟩
      · intro parts
        exact parts.2

theorem Undisturbed.consumes (clean : r.fault = none) (undisturbed : r.Undisturbed operations) :
    ∃ bytes, r.Consumes bytes (r.performAll operations) ∧
      bytes.length = Operation.widths operations := by
  induction operations generalizing r with
  | nil => exact ⟨[], consumes_nil_iff.2 ⟨clean, rfl⟩, rfl⟩
  | cons operation later induction =>
      rcases undisturbed with ⟨delivered, rest⟩
      obtain ⟨front, first, frontWidth⟩ := delivered.consumes
      obtain ⟨bytes, others, width⟩ := induction first.clean_after rest
      refine ⟨front ++ bytes, consumes_append_iff.2 ⟨_, first, others⟩, ?_⟩
      rw [List.length_append, frontWidth, width, Operation.widths, Operation.widths,
        List.map_cons, List.sum_cons]

/-- The operation that latched a fault: all before it delivered, and none after it matters. -/
theorem latched_at {e : FormatError} (clean : r.fault = none)
    (latched : (r.performAll operations).fault = some e) :
    ∃ earlier operation later, operations = earlier ++ operation :: later ∧
      r.Undisturbed earlier ∧ ((r.performAll earlier).perform operation).fault = some e := by
  induction operations generalizing r with
  | nil =>
      rw [perform_all_nil, clean] at latched
      cases latched
  | cons operation later induction =>
      cases held : (r.perform operation).fault with
      | none =>
          obtain ⟨earlier, found, others, rfl, undisturbed, here⟩ := induction held latched
          exact ⟨operation :: earlier, found, others, rfl,
            ⟨perform_clean_iff.1 held, undisturbed⟩, here⟩
      | some cause =>
          rw [perform_all_cons, perform_all_of_fault held] at latched
          exact ⟨[], operation, later, rfl, trivial, latched⟩

end SignedTx.Wire.Reader
