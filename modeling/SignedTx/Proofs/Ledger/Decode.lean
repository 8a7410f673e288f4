import SignedTx.Ledger.Decode
import SignedTx.Proofs.Wire.Reader

/-!
# Exact and accepting decoders

`Yields` is the exactness of a decoder: if it succeeds and the reader holds no fault afterwards, it
has consumed octets of which the stated relation to its value holds. `Accepts` is the other
direction: octets that come next are consumed, whatever follows them, and the value is as stated.
Both are closed under sequencing, so a format is proved field by field in the order in which its
decoder reads. A success that leaves a fault latched is not constrained.
-/

set_option autoImplicit false

namespace SignedTx.Decode

open Wire

variable {α β : Type}

/-- Success without a fault means that octets in the given relation to the value were consumed. -/
def Yields (decoder : Decode α) (spec : α → List UInt8 → Prop) : Prop :=
  ∀ r value after, decoder r = (.ok value, after) → after.fault = none →
    ∃ bytes, r.Consumes bytes after ∧ spec value bytes

/-- As `Yields`, for a decoder that is only started on a reader without a fault. -/
def YieldsWhenClean (decoder : Decode α) (spec : α → List UInt8 → Prop) : Prop :=
  ∀ r value after, r.fault = none → decoder r = (.ok value, after) → after.fault = none →
    ∃ bytes, r.Consumes bytes after ∧ spec value bytes

/-- The given octets are consumed, and only they, with a value as stated. -/
def Accepts (decoder : Decode α) (bytes : List UInt8) (result : α → Prop) : Prop :=
  ∀ before after : Reader, before.Consumes bytes after →
    ∃ value, decoder before = (.ok value, after) ∧ result value

theorem bind_of_ok {first : Decode α} {next : α → Decode β} {r middle : Reader} {found : α}
    (stepped : first r = (.ok found, middle)) : (first >>= next) r = next found middle := by
  simp only [bind, stepped]

theorem bind_of_error {first : Decode α} {next : α → Decode β} {r middle : Reader} {e : TxError}
    (stepped : first r = (.error e, middle)) : (first >>= next) r = (.error e, middle) := by
  simp only [bind, stepped]

theorem bind_eq_ok_iff {first : Decode α} {next : α → Decode β} {r after : Reader} {value : β} :
    (first >>= next) r = (.ok value, after) ↔
      ∃ found middle, first r = (.ok found, middle) ∧ next found middle = (.ok value, after) := by
  cases stepped : first r with
  | mk outcome middle =>
      cases outcome with
      | ok found =>
          rw [bind_of_ok stepped]
          constructor
          · intro later
            exact ⟨found, middle, rfl, later⟩
          · intro parts
            rcases parts with ⟨_, _, same, later⟩
            cases same
            exact later
      | error e =>
          rw [bind_of_error stepped]
          simp

theorem check_eq_ok_iff {r after : Reader} : check r = (.ok (), after) ↔
    r.fault = none ∧ after = r := by
  unfold check
  cases r.fault with
  | some e => simp
  | none => simp [eq_comm]

/-! ## Exactness -/

section Yields

variable {decoder : Decode α} {spec goal : α → List UInt8 → Prop}

theorem Yields.when_clean (yields : decoder.Yields spec) : decoder.YieldsWhenClean spec :=
  fun r value after _ => yields r value after

theorem Yields.weaken (yields : decoder.Yields spec)
    (weaker : ∀ value bytes, spec value bytes → goal value bytes) : decoder.Yields goal := by
  intro r value after decoded clean
  rcases yields r value after decoded clean with ⟨bytes, consumed, holds⟩
  exact ⟨bytes, consumed, weaker value bytes holds⟩

/-- The second part must be exact for any front: that it ends without a fault is what shows that
the first part did, and only then is the front known to be in relation to the first value. -/
theorem yields_bind {next : α → Decode β} {goal : β → List UInt8 → Prop}
    (yields : decoder.Yields spec)
    (later : ∀ found front,
      (next found).Yields fun value bytes => spec found front → goal value (front ++ bytes)) :
    (decoder >>= next).Yields goal := by
  intro r value after decoded clean
  rcases bind_eq_ok_iff.1 decoded with ⟨found, middle, firstDecoded, nextDecoded⟩
  rcases later found [] middle value after nextDecoded clean with ⟨_, started, _⟩
  obtain ⟨front, firstConsumed, holds⟩ :=
    yields r found middle firstDecoded started.clean_before
  rcases later found front middle value after nextDecoded clean with ⟨bytes, nextConsumed, reached⟩
  exact ⟨front ++ bytes, Reader.consumes_append_iff.2 ⟨middle, firstConsumed, nextConsumed⟩,
    reached holds⟩

theorem yields_pure {value : α} (holds : spec value []) :
    (pure value : Decode α).Yields spec := by
  intro r found after decoded clean
  cases decoded
  exact ⟨[], Reader.consumes_nil_iff.2 ⟨clean, rfl⟩, holds⟩

theorem yields_bind_pure {convert : α → β} {goal : β → List UInt8 → Prop}
    (yields : decoder.Yields spec)
    (converted : ∀ value bytes, spec value bytes → goal (convert value) bytes) :
    (decoder >>= fun value => pure (convert value)).Yields goal := by
  refine yields_bind yields fun value bytes => yields_pure ?_
  rw [List.append_nil]
  exact converted value bytes

theorem yields_fail {e : TxError} : (fail e : Decode α).Yields spec := by
  intro r value after decoded
  cases decoded

theorem yields_of_except {result : Except TxError α}
    (holds : ∀ value, result = .ok value → spec value []) : (ofExcept result).Yields spec := by
  intro r value after decoded clean
  cases decoded
  exact ⟨[], Reader.consumes_nil_iff.2 ⟨clean, rfl⟩, holds value rfl⟩

/-- After the check for a latched fault the rest runs on a reader without one. -/
theorem yields_check {next : Unit → Decode α} (yields : (next ()).YieldsWhenClean spec) :
    (check >>= next).Yields spec := by
  intro r value after decoded clean
  rcases bind_eq_ok_iff.1 decoded with ⟨_, middle, checked, nextDecoded⟩
  rcases check_eq_ok_iff.1 checked with ⟨cleanBefore, rfl⟩
  exact yields _ value after cleanBefore nextDecoded clean

theorem yields_read {step : Reader → α × Reader} (encode : α → List UInt8)
    (consumes : ∀ r, (step r).2.fault = none → r.Consumes (encode (step r).1) (step r).2) :
    (read step).Yields fun value bytes => bytes = encode value := by
  intro r value after decoded clean
  cases decoded
  exact ⟨_, consumes r clean, rfl⟩

theorem yields_byte : (read Reader.byte).Yields fun value bytes => bytes = [value] :=
  yields_read (fun value => [value]) fun _ => Reader.consumes_of_byte

theorem yields_bool : (read Reader.bool).Yields fun value bytes => bytes = [value.toUInt8] :=
  yields_read (fun value : Bool => [value.toUInt8]) fun _ => Reader.consumes_of_bool

theorem yields_uint64 : (read Reader.uint64).Yields fun value bytes => bytes = ofUInt64 value :=
  yields_read ofUInt64 fun _ => Reader.consumes_of_uint64

theorem yields_int64 : (read Reader.int64).Yields fun value bytes => bytes = ofInt64 value :=
  yields_read ofInt64 fun _ => Reader.consumes_of_int64

theorem yields_octets (n : Nat) :
    (read fun r => r.octets n).Yields fun value bytes => bytes = value.toList :=
  yields_read Octets.toList fun _ => Reader.consumes_of_octets

theorem yields_id : (read Reader.id).Yields fun value bytes => bytes = value.toList :=
  yields_read (fun value : Identifier => value.toList) fun _ => Reader.consumes_of_id

theorem yields_address : (read Reader.address).Yields fun value bytes => bytes = value.toList :=
  yields_read (fun value : Address => value.toList) fun _ => Reader.consumes_of_address

theorem yields_times {encode : α → List UInt8} {holds : α → Prop}
    (yields : decoder.Yields fun value bytes => bytes = encode value ∧ holds value) (n : Nat) :
    (decoder.times n).Yields fun values bytes =>
      values.length = n ∧ bytes = values.flatMap encode ∧ ∀ value ∈ values, holds value := by
  induction n with
  | zero => exact yields_pure (by simp)
  | succ n induction =>
      apply yields_bind yields
      intro value front
      refine yields_bind induction fun values middle => yields_pure ?_
      intro parts others
      rcases parts with ⟨lengthEq, rfl, later⟩
      rcases others with ⟨rfl, first⟩
      refine ⟨by simp [lengthEq], by simp, ?_⟩
      intro member found
      rcases List.mem_cons.mp found with rfl | deeper
      · exact first
      · exact later member deeper

end Yields

/-! ## Acceptance -/

section Accepts

variable {decoder : Decode α} {bytes : List UInt8} {result goal : α → Prop}

theorem Accepts.weaken (accepts : decoder.Accepts bytes result)
    (weaker : ∀ value, result value → goal value) : decoder.Accepts bytes goal := by
  intro before after consumed
  rcases accepts before after consumed with ⟨value, decoded, holds⟩
  exact ⟨value, decoded, weaker value holds⟩

theorem accepts_bind {next : α → Decode β} {later : List UInt8} {goal : β → Prop}
    (accepts : decoder.Accepts bytes result)
    (rest : ∀ found, result found → (next found).Accepts later goal) :
    (decoder >>= next).Accepts (bytes ++ later) goal := by
  intro before after consumed
  rcases Reader.consumes_append_iff.1 consumed with ⟨middle, firstConsumed, nextConsumed⟩
  rcases accepts before middle firstConsumed with ⟨found, firstDecoded, holds⟩
  rcases rest found holds middle after nextConsumed with ⟨value, nextDecoded, reached⟩
  exact ⟨value, bind_eq_ok_iff.2 ⟨found, middle, firstDecoded, nextDecoded⟩, reached⟩

theorem accepts_pure {value : α} (holds : result value) :
    (pure value : Decode α).Accepts [] result := by
  intro before after consumed
  rcases Reader.consumes_nil_iff.1 consumed with ⟨-, rfl⟩
  exact ⟨value, rfl, holds⟩

theorem accepts_bind_pure {convert : α → β} {goal : β → Prop}
    (accepts : decoder.Accepts bytes result)
    (converted : ∀ value, result value → goal (convert value)) :
    (decoder >>= fun value => pure (convert value)).Accepts bytes goal := by
  rw [← List.append_nil bytes]
  exact accepts_bind accepts fun value holds => accepts_pure (converted value holds)

theorem accepts_of_except {value : α} (holds : result value) :
    (ofExcept (.ok value)).Accepts [] result :=
  accepts_pure holds

theorem accepts_check {next : Unit → Decode α} (accepts : (next ()).Accepts bytes result) :
    (check >>= next).Accepts bytes result := by
  intro before after consumed
  rcases accepts before after consumed with ⟨value, decoded, holds⟩
  refine ⟨value, bind_eq_ok_iff.2 ⟨(), before, ?_, decoded⟩, holds⟩
  simp [check, consumed.clean_before]

theorem accepts_read {step : Reader → α × Reader} {value : α}
    (reads : ∀ before after : Reader, before.Consumes bytes after → step before = (value, after)) :
    (read step).Accepts bytes (· = value) := by
  intro before after consumed
  refine ⟨value, ?_, rfl⟩
  simp [read, reads before after consumed]

theorem accepts_byte (value : UInt8) : (read Reader.byte).Accepts [value] (· = value) :=
  accepts_read fun _ _ => Reader.byte_of_consumes

theorem accepts_bool (value : Bool) : (read Reader.bool).Accepts [value.toUInt8] (· = value) :=
  accepts_read fun _ _ => Reader.bool_of_consumes

theorem accepts_uint64 (value : UInt64) :
    (read Reader.uint64).Accepts (ofUInt64 value) (· = value) :=
  accepts_read fun _ _ => Reader.uint64_of_consumes

theorem accepts_int64 (value : Int64) : (read Reader.int64).Accepts (ofInt64 value) (· = value) :=
  accepts_read fun _ _ => Reader.int64_of_consumes

theorem accepts_octets {n : Nat} (value : Octets n) :
    (read fun r => r.octets n).Accepts value.toList (· = value) :=
  accepts_read fun _ _ => Reader.octets_of_consumes

theorem accepts_id (value : Identifier) : (read Reader.id).Accepts value.toList (· = value) :=
  accepts_read fun _ _ => Reader.id_of_consumes

theorem accepts_address (value : Address) :
    (read Reader.address).Accepts value.toList (· = value) :=
  accepts_read fun _ _ => Reader.address_of_consumes

/-- One value for each item of a list, each from the octets of its item. -/
theorem accepts_times {Item : Type} {encode : Item → List UInt8} {holds : Item → α → Prop}
    (items : List Item)
    (accepts : ∀ item ∈ items, decoder.Accepts (encode item) (holds item)) :
    (decoder.times items.length).Accepts (items.flatMap encode) (List.Forall₂ holds items) := by
  induction items with
  | nil => exact accepts_pure .nil
  | cons item items induction =>
      apply accepts_bind (accepts item (by simp))
      intro value first
      have later := induction fun other member => accepts other (by simp [member])
      exact accepts_bind_pure later fun values holds => .cons first holds

end Accepts

end SignedTx.Decode
