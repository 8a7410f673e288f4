import SignedTx.Proofs.Ledger.Decoding

/-!
# Octets cut short

A decoder that is started on only the front of what it accepts complains that octets are missing,
and nothing masks that. The read that runs short latches the underrun, reads after it keep it, and
the check before the values are used gives it back: no type id, flag or key is judged that was not
there. A decoder that does not check is not covered.
-/

set_option autoImplicit false

namespace SignedTx

/-! ## Reads that run short -/

namespace Wire.Reader

variable {α : Type} {r after : Reader} {n : Nat}

/-- A read of `n` octets that, where they are not to be had, leaves the reader as taking them. -/
structure RunsShort (step : Reader → α × Reader) (n : Nat) : Prop where
  of_fault : ∀ r e, r.fault = some e → (step r).2 = r
  of_short : ∀ r : Reader, r.fault = none → r.rest.length < n →
    (step r).2.fault = some (.insufficientBytes n r.rest.length)

theorem runs_short_of_take {step : Reader → α × Reader} (moves : ∀ r, (step r).2 = (r.take n).2) :
    RunsShort step n := by
  constructor
  · intro r e faulty
    rw [moves, take_of_fault faulty]
  · intro r clean short
    rw [moves, take_of_short clean short]

theorem bool_runs_short : RunsShort bool 1 := by
  -- Where nothing is taken the octet reads as zero, so the flag adds no fault of its own.
  have silent : ∀ {r after : Reader}, r.take 1 = (none, after) → r.bool.2 = after := by
    intro r after taken
    unfold bool byte octets
    rw [taken]
    rfl
  constructor
  · intro r e faulty
    exact silent (take_of_fault faulty)
  · intro r clean short
    rw [silent (take_of_short clean short)]

end Wire.Reader

namespace Decode

open Wire

variable {α β : Type}

/-- Started on a reader that holds a fault, the decoder gives that fault. -/
def Surfaces (decoder : Decode α) : Prop :=
  ∀ (r : Reader) e, r.fault = some e → decoder r = (.error (.format e), r)

/-- Started where the octets end too soon, the decoder complains that octets are missing. -/
def RefusesFronts (decoder : Decode α) (bytes : List UInt8) : Prop :=
  ∀ (r : Reader) missing, r.fault = none → bytes = r.rest ++ missing → missing ≠ [] →
    ∃ needed remaining after,
      decoder r = (.error (.format (.insufficientBytes needed remaining)), after)

theorem surfaces_check {next : Unit → Decode α} : (check >>= next).Surfaces := by
  intro r e faulty
  apply bind_of_error
  rw [check, faulty]

theorem surfaces_read {step : Reader → α × Reader} {next : α → Decode β} {n : Nat}
    (short : Reader.RunsShort step n) (surfaces : ∀ found, (next found).Surfaces) :
    (read step >>= next).Surfaces := by
  intro r e faulty
  have stepped : read step r = (.ok (step r).1, (step r).2) := rfl
  rw [bind_of_ok stepped, short.of_fault r e faulty]
  exact surfaces _ r e faulty

/-- Nothing is missing where nothing is expected. -/
theorem refuses_fronts_nil {decoder : Decode α} : decoder.RefusesFronts [] := by
  intro r missing clean cut some_missing
  exact absurd (List.append_eq_nil_iff.mp cut.symm).2 some_missing

theorem refuses_fronts_check {next : Unit → Decode α} {bytes : List UInt8}
    (refuses : (next ()).RefusesFronts bytes) : (check >>= next).RefusesFronts bytes := by
  intro r missing clean cut some_missing
  have checked : check r = (.ok (), r) := by rw [check, clean]
  rw [bind_of_ok checked]
  exact refuses r missing clean cut some_missing

/-- The octets end in the first part or in the second. -/
theorem cut_cases {front later rest missing : List UInt8} (cut : front ++ later = rest ++ missing) :
    (∃ gap, gap ≠ [] ∧ front = rest ++ gap) ∨
      ∃ more, rest = front ++ more ∧ later = more ++ missing := by
  rcases List.append_eq_append_iff.mp cut with ⟨more, restEq, laterEq⟩ | ⟨gap, frontEq, missingEq⟩
  · exact .inr ⟨more, restEq, laterEq⟩
  · by_cases whole : gap = []
    · rw [whole, List.append_nil] at frontEq
      rw [whole, List.nil_append] at missingEq
      exact .inr ⟨[], by rw [frontEq, List.append_nil], by rw [missingEq, List.nil_append]⟩
    · exact .inl ⟨gap, whole, frontEq⟩

theorem refuses_fronts_bind {first : Decode α} {next : α → Decode β} {front later : List UInt8}
    {result : α → Prop} (refuses : first.RefusesFronts front)
    (accepts : first.Accepts front result)
    (rest : ∀ found, result found → (next found).RefusesFronts later) :
    (first >>= next).RefusesFronts (front ++ later) := by
  intro r missing clean cut some_missing
  rcases cut_cases cut with ⟨gap, some_gap, frontEq⟩ | ⟨more, restEq, laterEq⟩
  · rcases refuses r gap clean frontEq some_gap with ⟨needed, remaining, after, refused⟩
    exact ⟨needed, remaining, after, bind_of_error refused⟩
  · have consumed : r.Consumes front ⟨more, r.offset + front.length, none⟩ :=
      ⟨clean, rfl, restEq, rfl⟩
    rcases accepts _ _ consumed with ⟨found, decoded, holds⟩
    rw [bind_of_ok decoded]
    exact rest found holds _ missing rfl laterEq some_missing

/-- A read complains of nothing itself. If it runs short, what follows it must give the fault. -/
theorem refuses_fronts_read {step : Reader → α × Reader} {next : α → Decode β}
    {front later : List UInt8} {n : Nat} {value : α} (short : Reader.RunsShort step n)
    (width : front.length = n) (accepts : (read step).Accepts front (· = value))
    (surfaces : ∀ found, (next found).Surfaces)
    (rest : (next value).RefusesFronts later) :
    (read step >>= next).RefusesFronts (front ++ later) := by
  intro r missing clean cut some_missing
  rcases cut_cases cut with ⟨gap, some_gap, frontEq⟩ | ⟨more, restEq, laterEq⟩
  · have fewer : r.rest.length < n := by
      have positive := List.length_pos_iff.mpr some_gap
      rw [← width, frontEq, List.length_append]
      omega
    have stepped : read step r = (.ok (step r).1, (step r).2) := rfl
    rw [bind_of_ok stepped]
    exact ⟨_, _, _, surfaces _ _ _ (short.of_short r clean fewer)⟩
  · have consumed : r.Consumes front ⟨more, r.offset + front.length, none⟩ :=
      ⟨clean, rfl, restEq, rfl⟩
    rcases accepts _ _ consumed with ⟨found, decoded, same⟩
    subst same
    rw [bind_of_ok decoded]
    exact rest _ missing rfl laterEq some_missing

theorem refuses_fronts_bind_pure {decoder : Decode α} {bytes : List UInt8} {convert : α → β}
    (refuses : decoder.RefusesFronts bytes) :
    (decoder >>= fun value => pure (convert value)).RefusesFronts bytes := by
  intro r missing clean cut some_missing
  rcases refuses r missing clean cut some_missing with ⟨needed, remaining, after, refused⟩
  exact ⟨needed, remaining, after, bind_of_error refused⟩

theorem refuses_fronts_times {Item : Type} {encode : Item → List UInt8} {holds : Item → α → Prop}
    {decoder : Decode α} (items : List Item)
    (accepts : ∀ item ∈ items, decoder.Accepts (encode item) (holds item))
    (refuses : ∀ item ∈ items, decoder.RefusesFronts (encode item)) :
    (decoder.times items.length).RefusesFronts (items.flatMap encode) := by
  induction items with
  | nil => exact refuses_fronts_nil
  | cons item items induction =>
      have acceptsLater := fun other member => accepts other (List.mem_cons_of_mem item member)
      have refusesLater := fun other member => refuses other (List.mem_cons_of_mem item member)
      apply refuses_fronts_bind (refuses item (by simp)) (accepts item (by simp))
      intro value _
      exact refuses_fronts_bind_pure (induction acceptsLater refusesLater)

end Decode

/-! ## Headers, transfers and transactions -/

open Wire Decode
open Wire.Reader (RunsShort runs_short_of_take bool_runs_short)

theorem Header.refuses_fronts (header : Header) :
    Header.decode.RefusesFronts (encodeFields header.fields) := by
  have timestamp : RunsShort Reader.int64 8 := runs_short_of_take fun _ => rfl
  have chainId : RunsShort Reader.id 32 := runs_short_of_take fun _ => rfl
  have maxFee : RunsShort Reader.uint64 8 := runs_short_of_take fun _ => rfl
  simp only [Header.fields, encodeFields_cons, encodeFields_nil]
  apply refuses_fronts_read timestamp (length_encode (.int64 header.timestamp))
    (accepts_int64 header.timestamp)
  · intro _
    exact surfaces_read chainId fun _ => surfaces_read maxFee fun _ => surfaces_check
  apply refuses_fronts_read chainId (length_encode (.id header.chainId))
    (accepts_id header.chainId)
  · intro _
    exact surfaces_read maxFee fun _ => surfaces_check
  apply refuses_fronts_read maxFee (length_encode (.uint64 header.maxFee))
    (accepts_uint64 header.maxFee)
  · intro _
    exact surfaces_check
  exact refuses_fronts_nil

theorem Transfer.refuses_fronts (transfer : Transfer) :
    Transfer.decode.RefusesFronts transfer.toAction.payload := by
  have recipient : RunsShort Reader.address 33 := runs_short_of_take fun _ => rfl
  have value : RunsShort Reader.uint64 8 := runs_short_of_take fun _ => rfl
  simp only [Transfer.toAction, Action.payload, encodeFields_cons, encodeFields_nil]
  apply refuses_fronts_read recipient (length_encode (.address transfer.recipient))
    (accepts_address transfer.recipient)
  · intro _
    exact surfaces_read value fun _ => surfaces_check
  apply refuses_fronts_read value (length_encode (.uint64 transfer.value))
    (accepts_uint64 transfer.value)
  · intro _
    exact surfaces_check
  exact refuses_fronts_nil

namespace Transaction

variable {registry : Registry}

theorem decode_tagged_refuses_fronts {α : Type} {table : DecoderTable α} {typeId : UInt8}
    {payload : List UInt8} {decoder : Decode α} (found : table.find? typeId = some decoder)
    (refuses : decoder.RefusesFronts payload) :
    (decodeTagged table).RefusesFronts (typeId :: payload) := by
  have octet : RunsShort Reader.byte 1 := runs_short_of_take fun _ => rfl
  apply refuses_fronts_read octet (length_encode (.byte typeId)) (accepts_byte typeId)
  · intro _
    exact surfaces_check
  apply refuses_fronts_check
  rwa [DecoderTable.decode, found]

/-- A transaction cut anywhere is refused if its parts are, wherever they are cut. -/
theorem decode_from_refuses_fronts {tx : Transaction} {actionHolds : Action → Action → Prop}
    (count : tx.actions.length ≤ maxActions)
    (actions : ∀ action ∈ tx.actions,
      (decodeTagged registry.actions).Accepts action.wire (actionHolds action))
    (actionFronts : ∀ action ∈ tx.actions,
      (decodeTagged registry.actions).RefusesFronts action.wire)
    (credentialFronts : ∀ credential ∈ tx.credential,
      (decodeTagged registry.credentials).RefusesFronts credential.wire) :
    (decodeFrom registry).RefusesFronts tx.layout := by
  rcases tx with ⟨⟨header, parts⟩, signed⟩
  have octet : RunsShort Reader.byte 1 := runs_short_of_take fun _ => rfl
  rw [layout, Draft.layout, List.append_assoc, List.cons_append]
  apply refuses_fronts_bind header.refuses_fronts (Header.decode_accepts header)
  intro found same
  subst same
  apply refuses_fronts_read octet (length_encode (.byte (UInt8.ofNat parts.length)))
    (accepts_byte (UInt8.ofNat parts.length))
  · intro _
    exact surfaces_check
  apply refuses_fronts_check
  rw [count_octet_to_nat count]
  apply refuses_fronts_bind (refuses_fronts_times parts actions actionFronts)
    (accepts_times parts actions)
  intro found related
  cases signed with
  | none =>
      rw [credentialLayout, ← List.append_nil [_]]
      apply refuses_fronts_read bool_runs_short (length_encode (.bool false)) (accepts_bool false)
      · intro _
        exact surfaces_check
      exact refuses_fronts_nil
  | some signed =>
      apply refuses_fronts_read bool_runs_short (length_encode (.bool true)) (accepts_bool true)
      · intro _
        exact surfaces_check
      apply refuses_fronts_check
      exact refuses_fronts_bind_pure (credentialFronts signed rfl)

/-- What is refused where it is cut is refused as a whole, too. -/
theorem of_bytes_of_strict_front {bytes front : List UInt8}
    (refuses : (decodeFrom registry).RefusesFronts bytes) (isFront : front <+: bytes)
    (strict : front ≠ bytes) : ∃ needed remaining,
      (decodeFrom registry (Reader.new front)).1 =
          .error (.format (.insufficientBytes needed remaining)) ∧
        ofBytes registry front = .error (.format (.insufficientBytes needed remaining)) := by
  rcases isFront with ⟨missing, whole⟩
  have some_missing : missing ≠ [] := by
    intro none_missing
    rw [none_missing, List.append_nil] at whole
    exact strict whole
  rcases refuses (Reader.new front) missing rfl whole.symm some_missing with
    ⟨needed, remaining, after, refused⟩
  refine ⟨needed, remaining, by rw [refused], ?_⟩
  unfold ofBytes
  rw [refused]

end Transaction
end SignedTx
