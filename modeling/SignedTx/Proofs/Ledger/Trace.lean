import SignedTx.Ledger.Transaction
import SignedTx.Proofs.Ledger.Decode
import SignedTx.Proofs.Wire.Operation

/-!
# Traces of decoders

A decoder that touches its reader only through operations has a trace: from any reader, the
operations that take it to where the decoder leaves it. A decoder may choose each of them by all it
has seen, a latched fault included, and may give any value. The trace of a sequence is the trace of
the first part and, if that succeeds, the trace of the second, so a transaction has a trace once the
registered decoders have theirs.
-/

set_option autoImplicit false

namespace SignedTx

open Wire

namespace Decode

variable {α β : Type}

/-- The operations of a decoder, as many and as it likes. -/
structure Traced (decoder : Decode α) where
  operations : Reader → List Reader.Operation
  performs : ∀ r, (decoder r).2 = r.performAll (operations r)

namespace Traced

/-- A step that leaves the reader alone. -/
def idle {decoder : Decode α} (still : ∀ r, (decoder r).2 = r) : decoder.Traced where
  operations _ := []
  performs := still

def pure (value : α) : (Pure.pure value : Decode α).Traced := idle fun _ => rfl

def ofExcept (result : Except TxError α) : (Decode.ofExcept result).Traced := idle fun _ => rfl

def check : Decode.check.Traced := idle fun r => by
  unfold Decode.check
  cases r.fault <;> rfl

def read {step : Reader → α × Reader} (operation : Reader.Operation)
    (same : ∀ r, (step r).2 = r.perform operation) : (Decode.read step).Traced where
  operations _ := [operation]
  performs := same

def byte : (Decode.read Reader.byte).Traced := read (.get .byte) fun _ => rfl

def bool : (Decode.read Reader.bool).Traced := read (.get .bool) fun _ => rfl

def uint64 : (Decode.read Reader.uint64).Traced := read (.get .uint64) fun _ => rfl

def int64 : (Decode.read Reader.int64).Traced := read (.get .int64) fun _ => rfl

def id : (Decode.read Reader.id).Traced := read (.get .id) fun _ => rfl

def address : (Decode.read Reader.address).Traced := read (.get .address) fun _ => rfl

def octets (count : Nat) : (Decode.read fun r => r.octets count).Traced :=
  read (.octets count) fun _ => rfl

def bind {first : Decode α} {next : α → Decode β} (traced : first.Traced)
    (later : ∀ found, (next found).Traced) : (first >>= next).Traced where
  operations r := traced.operations r ++
    match first r with
    | (.ok found, middle) => (later found).operations middle
    | (.error _, _) => []
  performs r := by
    have performed := traced.performs r
    cases stepped : first r with
    | mk outcome middle =>
        rw [stepped] at performed
        cases outcome with
        | ok found =>
            rw [bind_of_ok stepped, Reader.perform_all_append, ← performed]
            exact (later found).performs middle
        | error e =>
            rw [bind_of_error stepped, Reader.perform_all_append, ← performed]
            rfl

def times {decoder : Decode α} (traced : decoder.Traced) : (n : Nat) → (decoder.times n).Traced
  | 0 => pure []
  | n + 1 => traced.bind fun value => (traced.times n).bind fun values => pure (value :: values)

theorem operations_bind {first : Decode α} {next : α → Decode β} {traced : first.Traced}
    {later : ∀ found, (next found).Traced} {r middle : Reader} {found : α}
    (stepped : first r = (.ok found, middle)) :
    (traced.bind later).operations r = traced.operations r ++ (later found).operations middle := by
  simp only [bind, stepped]

end Traced

end Decode

/-! ## Registries and transactions -/

open Decode

/-- A trace for every registered decoder, by its type id. -/
structure DecoderTable.Traced {α : Type} (table : DecoderTable α) where
  operations : UInt8 → Reader → List Reader.Operation
  performs : ∀ typeId decoder, table.find? typeId = some decoder →
    ∀ r, (decoder r).2 = r.performAll (operations typeId r)

structure Registry.Traced (registry : Registry) where
  actions : registry.actions.Traced
  credentials : registry.credentials.Traced

/-- An unknown type id is refused before the reader is touched. -/
def DecoderTable.Traced.decode {α : Type} {table : DecoderTable α} (traced : table.Traced)
    (typeId : UInt8) : (table.decode typeId).Traced where
  operations r := if table.supports typeId then traced.operations typeId r else []
  performs r := by
    unfold DecoderTable.decode DecoderTable.supports
    cases registered : table.find? typeId with
    | some decoder => exact traced.performs typeId decoder registered r
    | none => rfl

theorem DecoderTable.Traced.operations_decode {α : Type} {table : DecoderTable α}
    (traced : table.Traced) {typeId : UInt8} {decoder : Decode α}
    (registered : table.find? typeId = some decoder) (r : Reader) :
    (traced.decode typeId).operations r = traced.operations typeId r := by
  have supported : table.supports typeId = true := by
    rw [DecoderTable.supports, registered]
    rfl
  exact if_pos supported

def Header.traced : Header.decode.Traced :=
  Traced.int64.bind fun _ => Traced.id.bind fun _ => Traced.uint64.bind fun _ =>
    Traced.check.bind fun _ => .pure _

namespace Transaction

def taggedTrace {α : Type} {table : DecoderTable α} (traced : table.Traced) :
    (decodeTagged table).Traced :=
  Traced.byte.bind fun typeId => Traced.check.bind fun _ => traced.decode typeId

def trace {registry : Registry} (traced : registry.Traced) : (decodeFrom registry).Traced :=
  Header.traced.bind fun _ => Traced.byte.bind fun count => Traced.check.bind fun _ =>
    ((taggedTrace traced.actions).times count.toNat).bind fun _ =>
    Traced.bool.bind fun signed => Traced.check.bind fun _ =>
      match signed with
      | true => (taggedTrace traced.credentials).bind fun _ => .pure _
      | false => .pure _

end Transaction
end SignedTx
