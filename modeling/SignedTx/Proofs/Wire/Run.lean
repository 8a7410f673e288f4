import SignedTx.Proofs.Wire.Operation

/-!
# Runs of a reader

A run is any sequence of reads and complaints over a buffer. As long as nothing is latched, each
read gives what the next octets mean and moves over them; the first fault ends that for good.
`Step` says what one operation does with the octets that are not yet read. That a reader stays on
its buffer follows for whole runs, and with it what `finish` says at their end.
-/

set_option autoImplicit false

namespace SignedTx.Wire

/-! ## What octets mean -/

/-- Octets and their value at a shape. Numbers are big-endian, signed ones in two's complement; only
0 and 1 are flags. -/
inductive Spells : Shape → List UInt8 → Field → Prop
  | byte (value : UInt8) : Spells .byte [value] (.byte value)
  | no : Spells .bool [0] (.bool false)
  | yes : Spells .bool [1] (.bool true)
  | uint64 {bytes : List UInt8} {value : UInt64} (whole : bytes.length = 8)
      (number : value.toNat = beNat bytes) : Spells .uint64 bytes (.uint64 value)
  | int64 {bytes : List UInt8} {value : Int64} (whole : bytes.length = 8)
      (number : value.toInt % 2 ^ 64 = beNat bytes) : Spells .int64 bytes (.int64 value)
  | bytes (value : List UInt8) : Spells (.bytes value.length) value (.bytes value)
  | id (value : Identifier) : Spells .id value.toList (.id value)
  | address (value : Address) : Spells .address value.toList (.address value)

theorem Spells.length_eq {shape : Shape} {bytes : List UInt8} {value : Field}
    (spelled : Spells shape bytes value) : bytes.length = shape.width := by
  cases spelled with
  | byte value => rfl
  | no => rfl
  | yes => rfl
  | uint64 whole number => exact whole
  | int64 whole number => exact whole
  | bytes value => rfl
  | id value => exact value.length_toList
  | address value => exact value.length_toList

theorem be_nat_of_uint64 (value : UInt64) : beNat (ofUInt64 value) = value.toNat := by
  have bounded : value.toNat < 256 ^ 8 := value.toNat_lt
  rw [ofUInt64, be_nat_be_bytes, Nat.mod_eq_of_lt bounded]

theorem to_int_mod_word (value : Int64) : value.toInt % 2 ^ 64 = (value.toUInt64.toNat : Int) := by
  have bounded := value.toUInt64.toNat_lt
  have word : value.toInt = value.toUInt64.toBitVec.toInt := rfl
  have number : value.toUInt64.toBitVec.toNat = value.toUInt64.toNat := rfl
  rw [word, BitVec.toInt_eq_toNat_cond, number]
  split <;> omega

theorem spells_encode (field : Field) : Spells field.shape field.encode field := by
  cases field with
  | byte value => exact .byte value
  | bool value =>
      cases value with
      | false => exact .no
      | true => exact .yes
  | uint64 value => exact .uint64 (length_beBytes _ _) (be_nat_of_uint64 value).symm
  | int64 value =>
      refine .int64 (length_beBytes _ _) ?_
      rw [to_int_mod_word, ← be_nat_of_uint64]
      rfl
  | bytes value => exact .bytes value
  | id value => exact .id value
  | address value => exact .address value

/-- What a read gives when there is nothing to give. -/
def Shape.blank : Shape → Field
  | .byte => .byte 0
  | .bool => .bool false
  | .uint64 => .uint64 0
  | .int64 => .int64 0
  | .bytes _ => .bytes []
  | .id => .id .zero
  | .address => .address .zero

namespace Reader

namespace Operation

/-- The shape that a read asks for; complaints ask for none. -/
def shape? : Operation → Option Shape
  | .get shape => some shape
  | .octets count => some (.bytes count)
  | .fail _ => none

/-- The answer where nothing can be read: octets of a fixed count are then zeros. -/
def blank : Operation → Option Field
  | .get shape => some shape.blank
  | .octets count => some (.bytes (List.replicate count 0))
  | .fail _ => none

end Operation

def answer (r : Reader) : Operation → Option Field
  | .get shape => some (r.get shape).1
  | .octets count => some (.bytes (r.octets count).1.toList)
  | .fail _ => none

/-- What an operation does where nothing is latched: from the octets that are not yet read, its
answer, how many octets it takes up, and what it latches. -/
inductive Step : List UInt8 → Operation → Option Field → Nat → Option FormatError → Prop
  | read {operation : Operation} {shape : Shape} {next later : List UInt8} {value : Field}
      (asks : operation.shape? = some shape) (spelled : Spells shape next value) :
      Step (next ++ later) operation (some value) shape.width none
  | short {operation : Operation} {shape : Shape} {rest : List UInt8}
      (asks : operation.shape? = some shape) (short : rest.length < shape.width) :
      Step rest operation operation.blank 0 (some (.insufficientBytes shape.width rest.length))
  | noFlag {octet : UInt8} {later : List UInt8} (notZero : octet ≠ 0) (notOne : octet ≠ 1) :
      Step (octet :: later) (.get .bool) (some (.bool false)) 1 (some (.invalidBool octet))
  | fail {rest : List UInt8} (cause : FormatError) : Step rest (.fail cause) none 0 (some cause)

variable {r after : Reader} {operation : Operation} {operations : List Operation} {shape : Shape}

theorem Step.taken_le {rest : List UInt8} {value : Option Field} {taken : Nat}
    {fault : Option FormatError} (step : Step rest operation value taken fault) :
    taken ≤ rest.length := by
  cases step with
  | read asks spelled =>
      rw [← spelled.length_eq, List.length_append]
      exact Nat.le_add_right _ _
  | short asks short => exact Nat.zero_le _
  | noFlag notZero notOne => exact Nat.succ_le_succ (Nat.zero_le _)
  | fail cause => exact Nat.zero_le _

/-! ## One operation -/

theorem octets_of_none {count : Nat} (nothing : r.take count = (none, after)) :
    r.octets count = (Octets.zero count, after) := by
  rw [octets, nothing]
  rfl

theorem get_of_none (nothing : r.take shape.width = (none, after)) :
    r.get shape = (shape.blank, after) := by
  have zeros : r.octets shape.width = (Octets.zero shape.width, after) := octets_of_none nothing
  cases shape with
  | byte => simp only [Shape.width] at zeros; simp only [get, byte, zeros]; rfl
  | bool => simp only [Shape.width] at zeros; simp only [get, bool, byte, zeros]; rfl
  | uint64 => simp only [Shape.width] at zeros; simp only [get, uint64, zeros]; rfl
  | int64 => simp only [Shape.width] at zeros; simp only [get, int64, zeros]; rfl
  | bytes length => simp only [Shape.width] at nothing; simp only [get, bytes, nothing]; rfl
  | id => simp only [Shape.width] at zeros; simp only [get, id, zeros]; rfl
  | address => simp only [Shape.width] at zeros; simp only [get, address, zeros]; rfl

/-- A read that takes nothing answers blank and leaves the reader as taking does. -/
theorem read_of_none (asks : operation.shape? = some shape)
    (nothing : r.take shape.width = (none, after)) :
    r.answer operation = operation.blank ∧ r.perform operation = after := by
  cases operation with
  | get asked =>
      cases asks
      rw [answer, perform, get_of_none nothing]
      exact ⟨rfl, rfl⟩
  | octets count =>
      cases asks
      have zeros : r.octets count = (Octets.zero count, after) := octets_of_none nothing
      rw [answer, perform, zeros]
      exact ⟨rfl, rfl⟩
  | fail cause => cases asks

theorem answer_of_fault {e : FormatError} (faulty : r.fault = some e) :
    r.answer operation = operation.blank := by
  cases operation with
  | get shape => exact (read_of_none rfl (take_of_fault faulty)).1
  | octets count => exact (read_of_none rfl (take_of_fault (n := count) faulty)).1
  | fail cause => rfl

theorem take_of_enough {n : Nat} (clean : r.fault = none) (enough : n ≤ r.rest.length) :
    (r.take n).2.fault = none := by
  have present : ¬ r.rest.length < n := Nat.not_lt.mpr enough
  unfold take
  rw [clean, dif_neg present]
  rfl

theorem bool_of_no_flag {octet : UInt8} {later : List UInt8} (clean : r.fault = none)
    (next : r.rest = octet :: later) (notZero : octet ≠ 0) (notOne : octet ≠ 1) :
    r.bool = (false, ⟨later, r.offset + 1, some (.invalidBool octet)⟩) := by
  have consumed : r.Consumes [octet] ⟨later, r.offset + 1, none⟩ := ⟨clean, rfl, next, rfl⟩
  simp [bool, byte_of_consumes consumed, notZero, notOne, fail]

/-- Of the reads that have octets enough only that of a flag can go wrong. -/
theorem no_flag_of_faulty_get {e : FormatError} (clean : r.fault = none)
    (enough : shape.width ≤ r.rest.length) (faulty : (r.get shape).2.fault = some e) :
    shape = .bool ∧ ∃ octet later, r.rest = octet :: later ∧ octet ≠ 0 ∧ octet ≠ 1 := by
  have taken : (r.take shape.width).2.fault = none := take_of_enough clean enough
  cases shape with
  | bool =>
      refine ⟨rfl, ?_⟩
      cases next : r.rest with
      | nil =>
          rw [next] at enough
          cases enough
      | cons octet later =>
          have consumed : r.Consumes [octet] ⟨later, r.offset + 1, none⟩ := ⟨clean, rfl, next, rfl⟩
          refine ⟨octet, later, rfl, ?_, ?_⟩
          · intro same
            subst same
            have found : r.bool = (false, _) := bool_of_consumes consumed
            simp [get, found] at faulty
          · intro same
            subst same
            have found : r.bool = (true, _) := bool_of_consumes consumed
            simp [get, found] at faulty
  | byte => cases taken.symm.trans faulty
  | uint64 => cases taken.symm.trans faulty
  | int64 => cases taken.symm.trans faulty
  | bytes length => cases taken.symm.trans faulty
  | id => cases taken.symm.trans faulty
  | address => cases taken.symm.trans faulty

/-- What delivers answers with what its octets mean. -/
theorem Delivers.spells (delivered : r.Delivers operation) :
    ∃ shape bytes value, operation.shape? = some shape ∧ r.answer operation = some value ∧
      Spells shape bytes value ∧ r.Consumes bytes (r.perform operation) := by
  cases operation with
  | get shape =>
      have shaped := (consumes_of_get delivered.clean_after).2
      have spelled := spells_encode (r.get shape).1
      rw [shaped] at spelled
      exact ⟨shape, _, _, rfl, rfl, spelled, delivered⟩
  | octets count =>
      have spelled := Spells.bytes (r.octets count).1.toList
      rw [Octets.length_toList] at spelled
      exact ⟨_, _, _, rfl, rfl, spelled, delivered⟩
  | fail cause => exact delivered.elim

/-- A read with octets enough that latches a fault has found no flag. -/
theorem no_flag_of_faulty {e : FormatError} (clean : r.fault = none)
    (asks : operation.shape? = some shape) (enough : shape.width ≤ r.rest.length)
    (faulty : (r.perform operation).fault = some e) :
    operation = .get .bool ∧ ∃ octet later, r.rest = octet :: later ∧ octet ≠ 0 ∧ octet ≠ 1 := by
  cases operation with
  | get asked =>
      cases asks
      obtain ⟨rfl, found⟩ := no_flag_of_faulty_get clean enough faulty
      exact ⟨rfl, found⟩
  | octets count =>
      cases asks
      have taken : (r.take count).2.fault = none := take_of_enough clean enough
      cases taken.symm.trans faulty
  | fail cause => cases asks

/-- One operation of a reader without a fault is a step, and the reader moves as the step says. -/
theorem step_of_clean (clean : r.fault = none) (operation : Operation) :
    ∃ taken, Step r.rest operation (r.answer operation) taken (r.perform operation).fault ∧
      (r.perform operation).offset = r.offset + taken ∧
      (r.perform operation).rest = r.rest.drop taken := by
  cases held : (r.perform operation).fault with
  | none =>
      obtain ⟨shape, bytes, value, asks, answered, spelled, consumed⟩ :=
        (perform_clean_iff.1 held).spells
      have width := spelled.length_eq
      refine ⟨shape.width, ?_, ?_, ?_⟩
      · rw [answered, consumed.rest_eq]
        exact .read asks spelled
      · rw [consumed.offset_eq, width]
      · rw [consumed.rest_eq, ← width, List.drop_left]
  | some e =>
      cases asks : operation.shape? with
      | none =>
          cases operation with
          | fail cause =>
              have latched : r.perform (.fail cause) = { r with fault := some cause } := by
                simp [perform, fail, clean]
              rw [latched] at held ⊢
              cases held
              exact ⟨0, .fail _, rfl, rfl⟩
          | get shape => cases asks
          | octets count => cases asks
      | some shape =>
          by_cases short : r.rest.length < shape.width
          · obtain ⟨answered, performed⟩ := read_of_none asks (take_of_short clean short)
            rw [performed] at held ⊢
            cases held
            rw [answered]
            exact ⟨0, .short asks short, rfl, rfl⟩
          · obtain ⟨rfl, octet, later, next, notZero, notOne⟩ :=
              no_flag_of_faulty clean asks (Nat.le_of_not_lt short) held
            have found := bool_of_no_flag clean next notZero notOne
            have performed : r.perform (.get .bool) =
                ⟨later, r.offset + 1, some (.invalidBool octet)⟩ := congrArg Prod.snd found
            have answered : r.answer (.get .bool) = some (.bool false) :=
              congrArg (fun read : Bool × Reader => some (Field.bool read.1)) found
            rw [performed] at held ⊢
            cases held
            rw [answered, next]
            exact ⟨1, .noFlag notZero notOne, rfl, rfl⟩

/-! ## The buffer -/

/-- The reader stands on a buffer: what it has not read is what lies after its offset. -/
structure OnBuffer (bytes : List UInt8) (r : Reader) : Prop where
  within : r.offset ≤ bytes.length
  rest_eq : r.rest = bytes.drop r.offset

variable {bytes : List UInt8}

theorem on_buffer_new : OnBuffer bytes (new bytes) := ⟨Nat.zero_le _, rfl⟩

theorem OnBuffer.remaining_eq (placed : OnBuffer bytes r) :
    r.remaining = bytes.length - r.offset := by
  rw [remaining, placed.rest_eq, List.length_drop]

theorem OnBuffer.perform (placed : OnBuffer bytes r) : OnBuffer bytes (r.perform operation) := by
  cases held : r.fault with
  | some e =>
      rw [perform_of_fault held]
      exact placed
  | none =>
      obtain ⟨taken, step, offset, rest⟩ := step_of_clean held operation
      have inside := step.taken_le
      rw [placed.rest_eq, List.length_drop] at inside
      constructor
      · have within := placed.within
        omega
      · rw [rest, offset, placed.rest_eq, List.drop_drop]

theorem OnBuffer.perform_all (placed : OnBuffer bytes r) :
    OnBuffer bytes (r.performAll operations) := by
  induction operations generalizing r with
  | nil => exact placed
  | cons operation later induction => exact induction placed.perform

theorem offset_le_perform : r.offset ≤ (r.perform operation).offset := by
  cases held : r.fault with
  | some e =>
      rw [perform_of_fault held]
  | none =>
      obtain ⟨taken, -, offset, -⟩ := step_of_clean held operation
      rw [offset]
      exact Nat.le_add_right _ _

/-! ## Whole runs -/

/-- The reader after a run over a buffer. -/
def runOver (bytes : List UInt8) (operations : List Operation) : Reader :=
  (new bytes).performAll operations

/-- The run latches a fault, and this is the one: nothing is latched before the operation that
latches it. -/
def FirstFault (bytes : List UInt8) (operations : List Operation) (e : FormatError) : Prop :=
  ∃ earlier operation later, operations = earlier ++ operation :: later ∧
    (runOver bytes earlier).fault = none ∧ ((runOver bytes earlier).perform operation).fault = some e

theorem run_over_append {earlier later : List Operation} :
    runOver bytes (earlier ++ later) = (runOver bytes earlier).performAll later :=
  perform_all_append

theorem on_buffer_run_over : OnBuffer bytes (runOver bytes operations) := on_buffer_new.perform_all

theorem fault_of_run_over_iff {e : FormatError} :
    (runOver bytes operations).fault = some e ↔ FirstFault bytes operations e := by
  constructor
  · intro latched
    obtain ⟨earlier, operation, later, rfl, undisturbed, here⟩ := latched_at rfl latched
    exact ⟨earlier, operation, later, rfl, perform_all_clean_iff.2 ⟨rfl, undisturbed⟩, here⟩
  · intro first
    obtain ⟨earlier, operation, later, rfl, -, here⟩ := first
    rw [run_over_append, perform_all_cons, perform_all_of_fault here]
    exact here

theorem offset_of_clean_run (clean : (runOver bytes operations).fault = none) :
    (runOver bytes operations).offset = Operation.widths operations := by
  obtain ⟨-, undisturbed⟩ := perform_all_clean_iff.1 clean
  obtain ⟨taken, consumed, width⟩ := undisturbed.consumes rfl
  rw [runOver, consumed.offset_eq, width]
  exact Nat.zero_add _

theorem finish_of_fault {e : FormatError} (faulty : r.fault = some e) : r.finish = .error e := by
  rw [finish, faulty]

theorem finish_of_clean (placed : OnBuffer bytes r) (clean : r.fault = none) :
    r.finish =
      if r.offset = bytes.length then .ok () else .error (.trailingBytes (bytes.length - r.offset)) := by
  have within := placed.within
  by_cases covered : r.offset = bytes.length
  · rw [if_pos covered, finish_eq_ok_iff]
    exact ⟨clean, by rw [placed.rest_eq, covered, List.drop_length]⟩
  · have left : r.rest.isEmpty = false := by
      rw [placed.rest_eq, List.isEmpty_eq_false_iff, ne_eq, List.drop_eq_nil_iff]
      omega
    rw [if_neg covered, finish, clean, left, placed.remaining_eq]
    rfl

/-- A run of reads and complaints stays on its buffer and never goes back. While nothing is latched
every operation is a step on the octets that come next; from the first fault on nothing changes and
every read is blank. `finish` gives that fault; without one it counts the octets that the reads have
left, and is content if there are none. -/
theorem reader_delivers_until_first_fault (bytes : List UInt8) (operations : List Operation) :
    (runOver bytes operations).offset ≤ bytes.length ∧
    (∀ operation,
      (runOver bytes operations).offset ≤ ((runOver bytes operations).perform operation).offset) ∧
    ((runOver bytes operations).fault = none → ∀ operation, ∃ taken,
      Step (bytes.drop (runOver bytes operations).offset) operation
          ((runOver bytes operations).answer operation) taken
          ((runOver bytes operations).perform operation).fault ∧
        ((runOver bytes operations).perform operation).offset =
          (runOver bytes operations).offset + taken) ∧
    (∀ e, (runOver bytes operations).fault = some e →
      (∀ later, runOver bytes (operations ++ later) = runOver bytes operations) ∧
        ∀ operation, (runOver bytes operations).answer operation = operation.blank) ∧
    ((runOver bytes operations).finish = .ok () ↔
      (∀ e, ¬ FirstFault bytes operations e) ∧ Operation.widths operations = bytes.length) ∧
    (∀ e, FirstFault bytes operations e → (runOver bytes operations).finish = .error e) ∧
    ((∀ e, ¬ FirstFault bytes operations e) → Operation.widths operations ≠ bytes.length →
      (runOver bytes operations).finish =
        .error (.trailingBytes (bytes.length - (runOver bytes operations).offset))) := by
  have placed : OnBuffer bytes (runOver bytes operations) := on_buffer_run_over
  have clean_of_none (nothing : ∀ e, ¬ FirstFault bytes operations e) :
      (runOver bytes operations).fault = none := by
    cases held : (runOver bytes operations).fault with
    | none => rfl
    | some e => exact absurd (fault_of_run_over_iff.1 held) (nothing e)
  have ending (nothing : ∀ e, ¬ FirstFault bytes operations e) :=
    finish_of_clean placed (clean_of_none nothing)
  refine ⟨placed.within, fun _ => offset_le_perform, ?_, ?_, ?_, ?_, ?_⟩
  · intro clean operation
    obtain ⟨taken, step, offset, -⟩ := step_of_clean clean operation
    rw [placed.rest_eq] at step
    exact ⟨taken, step, offset⟩
  · intro e faulty
    refine ⟨?_, fun _ => answer_of_fault faulty⟩
    intro later
    rw [run_over_append, perform_all_of_fault faulty]
  · constructor
    · intro finished
      obtain ⟨clean, -⟩ := finish_eq_ok_iff.1 finished
      have nothing : ∀ e, ¬ FirstFault bytes operations e := by
        intro e first
        rw [fault_of_run_over_iff.2 first] at clean
        cases clean
      refine ⟨nothing, ?_⟩
      rw [← offset_of_clean_run clean]
      by_contra uncovered
      rw [ending nothing, if_neg uncovered] at finished
      cases finished
    · intro parts
      obtain ⟨nothing, covered⟩ := parts
      rw [ending nothing, offset_of_clean_run (clean_of_none nothing), if_pos covered]
  · intro e first
    exact finish_of_fault (fault_of_run_over_iff.2 first)
  · intro nothing uncovered
    rw [← offset_of_clean_run (clean_of_none nothing)] at uncovered
    rw [ending nothing, if_neg uncovered]

/-- A number, an octet that is no flag, and one more octet. -/
def numberAndNoFlag : List UInt8 := ofUInt64 7 ++ [2, 9]

/-- The octet that is no flag is taken up and named at the end, whatever is asked for later: more
octets than there can be, or a complaint. Without the reads after the number, two octets are left. -/
theorem no_flag_ends_the_run :
    (runOver numberAndNoFlag [.get .uint64]).answer (.get .bool) = some (.bool false) ∧
      (runOver numberAndNoFlag [.get .uint64, .get .bool, .octets (2 ^ 64 - 1),
        .fail (.trailingBytes 1)]).offset = 9 ∧
      (runOver numberAndNoFlag [.get .uint64, .get .bool, .octets (2 ^ 64 - 1),
        .fail (.trailingBytes 1)]).finish = .error (.invalidBool 2) ∧
      (runOver numberAndNoFlag [.get .uint64]).finish = .error (.trailingBytes 2) := by
  have first : FirstFault numberAndNoFlag
      [.get .uint64, .get .bool, .octets (2 ^ 64 - 1), .fail (.trailingBytes 1)] (.invalidBool 2) :=
    ⟨[.get .uint64], .get .bool, [.octets (2 ^ 64 - 1), .fail (.trailingBytes 1)], rfl, rfl, rfl⟩
  have stopped : (runOver numberAndNoFlag [.get .uint64, .get .bool]).fault =
      some (.invalidBool 2) := rfl
  have nothing : ∀ e, ¬ FirstFault numberAndNoFlag [.get .uint64] e := by
    intro e latched
    have clean : (runOver numberAndNoFlag [.get .uint64]).fault = none := rfl
    rw [fault_of_run_over_iff.2 latched] at clean
    cases clean
  obtain ⟨-, -, -, stays, -⟩ :=
    reader_delivers_until_first_fault numberAndNoFlag [.get .uint64, .get .bool]
  obtain ⟨-, -, -, -, -, refused, -⟩ := reader_delivers_until_first_fault numberAndNoFlag
    [.get .uint64, .get .bool, .octets (2 ^ 64 - 1), .fail (.trailingBytes 1)]
  obtain ⟨-, -, -, -, -, -, left⟩ :=
    reader_delivers_until_first_fault numberAndNoFlag [.get .uint64]
  have same := (stays _ stopped).1 [.octets (2 ^ 64 - 1), .fail (.trailingBytes 1)]
  refine ⟨rfl, ?_, refused _ first, left nothing (by decide)⟩
  rw [List.cons_append, List.cons_append, List.nil_append] at same
  rw [same]
  rfl

end Reader
end SignedTx.Wire
