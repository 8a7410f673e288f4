import Mathlib.Data.List.Forall2
import SignedTx.Proofs.Wire.FirstExcess
import SignedTx.Proofs.Wire.Run

/-!
# Reading back what was written

Reads that ask for the types of the fields that were written give these fields back and stop where
the writer stopped, whatever follows. On a cut the fields that lie before it whole are given back; the
read of the first one that does not finds too few octets, and after it nothing is read. A field
without octets fits at the cut itself.
-/

set_option autoImplicit false

namespace SignedTx.Wire

/-! ## Fields that are there whole -/

namespace Reader

/-- The read that a field's type calls for; octets of a fixed count have two. -/
inductive Operation.ReadsBack : Operation → Field → Prop
  | get (field : Field) : ReadsBack (.get field.shape) field
  | octets (bytes : List UInt8) : ReadsBack (.octets bytes.length) (.bytes bytes)

/-- The answers along a run. -/
def answers : Reader → List Operation → List (Option Field)
  | _, [] => []
  | r, operation :: later => r.answer operation :: (r.perform operation).answers later

variable {r after : Reader} {operation : Operation} {operations : List Operation} {field : Field}
  {fields : List Field}

theorem Operation.ReadsBack.asks (matched : operation.ReadsBack field) :
    operation.shape? = some field.shape := by
  cases matched with
  | get field => rfl
  | octets bytes => rfl

theorem bytes_of_consumes {value : List UInt8} (consumed : r.Consumes value after) :
    r.bytes value.length = (value, after) := by
  have found : r.take value.length = (some ⟨value, rfl⟩, after) := take_of_consumes consumed
  rw [bytes, found]
  rfl

theorem get_of_consumes (consumed : r.Consumes field.encode after) :
    r.get field.shape = (field, after) := by
  cases field with
  | byte value => rw [Field.shape, get, byte_of_consumes consumed]
  | bool value => rw [Field.shape, get, bool_of_consumes consumed]
  | uint64 value => rw [Field.shape, get, uint64_of_consumes consumed]
  | int64 value => rw [Field.shape, get, int64_of_consumes consumed]
  | bytes value =>
      have found : r.bytes value.length = (value, after) := bytes_of_consumes consumed
      rw [Field.shape, get, found]
  | id value => rw [Field.shape, get, id_of_consumes consumed]
  | address value => rw [Field.shape, get, address_of_consumes consumed]

/-- One read gives back the field that lies before it. -/
theorem read_back (matched : operation.ReadsBack field) (consumed : r.Consumes field.encode after) :
    r.answer operation = some field ∧ r.perform operation = after := by
  cases matched with
  | get field =>
      rw [answer, perform, get_of_consumes consumed]
      exact ⟨rfl, rfl⟩
  | octets bytes =>
      have found : r.octets bytes.length = (⟨bytes, rfl⟩, after) := octets_of_consumes consumed
      rw [answer, perform, found]
      exact ⟨rfl, rfl⟩

theorem read_back_all (matched : List.Forall₂ Operation.ReadsBack operations fields)
    (consumed : r.Consumes (encodeFields fields) after) :
    r.answers operations = fields.map some ∧ r.performAll operations = after := by
  induction matched generalizing r with
  | nil => exact ⟨rfl, (consumes_nil_iff.1 consumed).2.symm⟩
  | cons first _ induction =>
      obtain ⟨middle, here, there⟩ := consumes_append_iff.1 consumed
      obtain ⟨answered, performed⟩ := read_back first here
      obtain ⟨others, final⟩ := induction there
      rw [answers, perform_all_cons, performed, answered, others]
      exact ⟨rfl, final⟩

theorem answers_append {earlier later : List Operation} :
    r.answers (earlier ++ later) = r.answers earlier ++ (r.performAll earlier).answers later := by
  induction earlier generalizing r with
  | nil => rfl
  | cons operation rest induction =>
      rw [List.cons_append, answers, answers, induction]
      rfl

theorem answers_of_fault {e : FormatError} (faulty : r.fault = some e) :
    r.answers operations = operations.map Operation.blank := by
  induction operations with
  | nil => rfl
  | cons operation later induction =>
      rw [answers, perform_of_fault faulty, answer_of_fault faulty, induction]
      rfl

end Reader

/-! ## Octets cut short -/

section Cut

open Reader

variable {fields : List Field} {operations : List Operation} {front missing : List UInt8}
  {place : Nat}

/-- The fields before the first one that does not fit lie whole in front of the cut. -/
theorem FirstExcess.split_front (excess : FirstExcess front.length fields place)
    (cut : encodeFields fields = front ++ missing) :
    ∃ gap, front = encodeFields (fields.take place) ++ gap := by
  have whole : encodeFields (fields.take place) ++ encodeFields (fields.drop place) =
      front ++ missing := by
    rw [← encode_fields_append, List.take_append_drop, cut]
  rcases List.append_eq_append_iff.mp whole with ⟨gap, frontEq, -⟩ | ⟨gap, fieldsEq, -⟩
  · exact ⟨gap, frontEq⟩
  · have fits := excess.fits_before
    rw [fieldsEq, List.length_append] at fits
    have nothing : gap = [] := List.length_eq_zero_iff.mp (by omega)
    exact ⟨[], by rw [fieldsEq, nothing, List.append_nil, List.append_nil]⟩

theorem length_through_of_found {field : Field} (found : fields[place]? = some field) :
    lengthThrough fields place =
      (encodeFields (fields.take place)).length + field.shape.width := by
  rw [lengthThrough, List.take_add_one, found, Option.toList_some, encode_fields_append,
    List.length_append, encodeFields_cons, encodeFields_nil, List.append_nil, length_encode]

/-- The run over a cut: all before the first field that does not fit are given back, there the
underrun is latched, and after it all reads are blank. -/
theorem read_back_cut {field : Field} (matched : List.Forall₂ Operation.ReadsBack operations fields)
    (cut : encodeFields fields = front ++ missing)
    (excess : FirstExcess front.length fields place) (found : fields[place]? = some field) :
    ∃ gap, front = encodeFields (fields.take place) ++ gap ∧
      runOver front (operations.take place) =
        ⟨gap, (encodeFields (fields.take place)).length, none⟩ ∧
      runOver front (operations.take (place + 1)) =
        ⟨gap, (encodeFields (fields.take place)).length,
          some (.insufficientBytes field.shape.width gap.length)⟩ ∧
      (new front).answers operations =
        (fields.take place).map some ++ (operations.drop place).map Operation.blank := by
  obtain ⟨gap, frontEq⟩ := excess.split_front cut
  have inside := excess.inside
  have listed : place < operations.length := by
    rw [matched.length_eq]
    exact inside
  have lengths := congrArg List.length frontEq
  have short : gap.length < field.shape.width := by
    have passed := excess.exceeds
    rw [length_through_of_found found] at passed
    rw [List.length_append] at lengths
    omega
  have consumed : (new front).Consumes (encodeFields (fields.take place))
      ⟨gap, (encodeFields (fields.take place)).length, none⟩ := by
    rw [frontEq]
    exact consumes_new _ _
  obtain ⟨answered, reached⟩ := read_back_all (List.forall₂_take place matched) consumed
  have here : operations[place].ReadsBack field := by
    have pair := matched.get listed inside
    rw [List.getElem?_eq_getElem inside] at found
    cases found
    exact pair
  obtain ⟨blank, latched⟩ := read_of_none here.asks (take_of_short
    (r := ⟨gap, (encodeFields (fields.take place)).length, none⟩) rfl short)
  have through : operations.take (place + 1) = operations.take place ++ [operations[place]] :=
    List.take_succ_eq_append_getElem listed
  have next : operations.drop place = operations[place] :: operations.drop (place + 1) :=
    List.drop_eq_getElem_cons listed
  refine ⟨gap, frontEq, reached, ?_, ?_⟩
  · rw [through, run_over_append, runOver, reached, perform_all_cons, latched]
    rfl
  · rw [← List.take_append_drop place operations, answers_append, answered, reached,
      List.take_append_drop, next, answers, latched, blank, answers_of_fault rfl]
    rfl

end Cut

open Reader in
/-- What was written within the limit is read back by reads of the same types: from the octets and
whatever follows them, the fields in order, without a fault, and up to the end of what was written.
From a strict front of the octets the fields that it holds whole are read back; the first that it
does not hold latches that octets are missing. -/
theorem reader_undoes_writer (limit : Nat) (fields : List Field) (operations : List Operation)
    (matched : List.Forall₂ Operation.ReadsBack operations fields)
    (fits : (encodeFields fields).length ≤ limit) :
    ∃ written, write limit fields = .ok written ∧
      (∀ suffix, (new (written ++ suffix)).answers operations = fields.map some ∧
        (runOver (written ++ suffix) operations).offset = written.length ∧
        (runOver (written ++ suffix) operations).fault = none ∧
        (runOver (written ++ suffix) operations).remaining = suffix.length) ∧
      ∀ front missing, written = front ++ missing → missing ≠ [] →
        ∃ place field, FirstExcess front.length fields place ∧ fields[place]? = some field ∧
          (new front).answers operations =
            (fields.take place).map some ++ (operations.drop place).map Operation.blank ∧
          (runOver front (operations.take place)).fault = none ∧
          (runOver front (operations.take (place + 1))).fault =
            some (.insufficientBytes field.shape.width
              (front.length - (encodeFields (fields.take place)).length)) ∧
          runOver front operations = runOver front (operations.take (place + 1)) ∧
          (runOver front operations).offset = (encodeFields (fields.take place)).length := by
  refine ⟨encodeFields fields, write_of_fits fits, ?_, ?_⟩
  · intro suffix
    obtain ⟨answered, reached⟩ := read_back_all matched (consumes_new (encodeFields fields) suffix)
    rw [runOver, reached]
    exact ⟨answered, rfl, rfl, rfl⟩
  · intro front missing cut some_missing
    have exceeds : front.length < (encodeFields fields).length := by
      rw [cut, List.length_append]
      have positive := List.length_pos_iff.mpr some_missing
      omega
    obtain ⟨place, excess⟩ := exists_first_excess exceeds
    have found := List.getElem?_eq_getElem excess.inside
    obtain ⟨gap, frontEq, reached, stopped, answered⟩ := read_back_cut matched cut excess found
    have left : front.length - (encodeFields (fields.take place)).length = gap.length := by
      rw [frontEq, List.length_append]
      omega
    have stays : runOver front operations = runOver front (operations.take (place + 1)) := by
      calc runOver front operations
          = runOver front (operations.take (place + 1) ++ operations.drop (place + 1)) := by
            rw [List.take_append_drop]
        _ = runOver front (operations.take (place + 1)) := by
            rw [run_over_append, stopped]
            exact perform_all_of_fault rfl
    refine ⟨place, _, excess, found, answered, ?_, ?_, stays, ?_⟩
    · rw [reached]
    · rw [stopped, left]
    · rw [stays, stopped]

/-- A negative number, no octets, a flag and three octets. -/
def mixedFields : List Field := [.int64 (-2), .bytes [], .bool true, .bytes [5, 6, 7]]

open Reader in
/-- In front of another octet all four are read back; one octet short of the end the number and the
flag are, and the three octets are not there. -/
theorem mixed_fields_are_read_back :
    (new (encodeFields mixedFields ++ [9])).answers
        [.get .int64, .octets 0, .get .bool, .get (.bytes 3)] = mixedFields.map some ∧
      (new ((encodeFields mixedFields).take 11)).answers
        [.get .int64, .octets 0, .get .bool, .get (.bytes 3)] =
          [some (.int64 (-2)), some (.bytes []), some (.bool true), some (.bytes [])] ∧
      (runOver ((encodeFields mixedFields).take 11)
        [.get .int64, .octets 0, .get .bool, .get (.bytes 3)]).fault =
          some (.insufficientBytes 3 2) := by
  have matched : List.Forall₂ Operation.ReadsBack
      [.get .int64, .octets 0, .get .bool, .get (.bytes 3)] mixedFields :=
    .cons (.get (.int64 (-2))) (.cons (.octets []) (.cons (.get (.bool true))
      (.cons (.get (.bytes [5, 6, 7])) .nil)))
  obtain ⟨written, wrote, whole, cut⟩ :=
    reader_undoes_writer 12 mixedFields _ matched (by decide)
  have same : written = encodeFields mixedFields := eq_of_write_eq_ok wrote
  subst same
  obtain ⟨place, field, excess, found, answered, -, latched, stays, -⟩ :=
    cut ((encodeFields mixedFields).take 11) [7] (by decide) (by decide)
  have last : place = 3 := by
    have inside : place < 4 := excess.inside
    have passed : 11 < lengthThrough mixedFields place := excess.exceeds
    have early : ∀ earlier < 3, lengthThrough mixedFields earlier ≤ 11 := by decide
    by_contra other
    exact absurd passed (Nat.not_lt.mpr (early place (by omega)))
  subst last
  cases found
  exact ⟨(whole [9]).1, answered, by rw [stays, latched]; rfl⟩

end SignedTx.Wire
