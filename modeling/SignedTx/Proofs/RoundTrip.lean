import SignedTx.Crypto.Secp256k1
import SignedTx.Proofs.CanonicalWireForm

/-!
# Reading what was written

A transaction whose parts are read back by a registry is itself read back from its wire form. A part
is compared by type id and payload, and so is a transaction. Digest and id are written within
reported sizes: they are never others, and they agree if what was decoded reports its sizes truly.
The stock decoders do, and of the signature library only the parsing of the serialized key is used.
No signature is assumed to verify.
-/

set_option autoImplicit false

namespace SignedTx

open Decode Transaction
open WirePart (Truthful)

/-- The part reports its true size, and the decoder of its type id gives back a part of this type id
and payload from the payload, whatever follows it. -/
def DecoderTable.ReadsBack {α : Type} [WirePart α] (table : DecoderTable α) (part : α) : Prop :=
  Truthful part ∧ ∃ decoder, table.find? (WirePart.typeId part) = some decoder ∧
    decoder.Accepts (WirePart.payload part) fun found =>
      WirePart.typeId found = WirePart.typeId part ∧
        WirePart.payload found = WirePart.payload part

theorem DecoderTable.ReadsBack.decode_tagged_accepts {α : Type} [WirePart α]
    {table : DecoderTable α} {part : α} (back : table.ReadsBack part) :
    (decodeTagged table).Accepts (WirePart.wire part) fun found =>
      WirePart.wire found = WirePart.wire part := by
  rcases back with ⟨-, decoder, found, accepts⟩
  refine Transaction.decode_tagged_accepts found (accepts.weaken ?_)
  intro other parts
  rcases parts with ⟨sameId, samePayload⟩
  rw [WirePart.wire, WirePart.wire, sameId, samePayload]

namespace Transaction

variable {registry : Registry} {tx found : Transaction}

end Transaction

/-! ## Stock parts -/

namespace Registry

variable {crypto : Crypto} (projection : Projection)

end Registry

/-- An action of one octet that reports any size. -/
def oneOctetAction (size : Nat) : Action where
  typeId := 9
  name := "OneOctet"
  computeUnits := fun _ => 1
  validRange := fun _ => .always
  size := size
  fields := [.byte 1]
  toJson := fun _ => .ok []
  typedFields := []

/-- A decoder whose actions say that they have no octets. -/
def understatingRegistry : Registry where
  actions := {
    family := .action
    decoders := [(9, do
      let _ ← Decode.read Wire.Reader.byte
      return oneOctetAction 0)] }

/-- Reading back does not settle the digest without true sizes: the same transaction is read, but
it cannot be written. -/
theorem understated_size_has_no_digest :
    let tx : Transaction := { header := ⟨0, Identifier.zero, 0⟩, actions := [oneOctetAction 1] }
    understatingRegistry.actions.ReadsBack (oneOctetAction 1) ∧
      ∃ bytes found, tx.toBytes = .ok bytes ∧ ofBytes understatingRegistry bytes = .ok found ∧
        found.same tx = true ∧ found.digest.isOk = false := by
  refine ⟨⟨rfl, _, rfl, ?_⟩, _, _, rfl, rfl, by decide, by decide⟩
  apply accepts_bind_pure (accepts_byte 1)
  intro found same
  subst same
  exact ⟨rfl, rfl⟩

end SignedTx
