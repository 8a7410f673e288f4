import SignedTx.Crypto.Secp256k1
import SignedTx.Proofs.Outcome
import SignedTx.Proofs.Signing.Stock

/-!
# The wire form is canonical

Octets that decode to a transaction are the octets that the transaction is written as, so a
transaction has one wire form and one id. The registry is open: each decoder must give back, without
a fault, a value that is written as what was consumed. No decoder is assumed to notice a fault.
-/

set_option autoImplicit false

namespace SignedTx

open Decode Transaction

/-- Each decoder, where it leaves no fault, gives a value of its own type id whose payload and size
are those of the octets that it has consumed. -/
def DecoderTable.IsExact {α : Type} [WirePart α] (table : DecoderTable α) : Prop :=
  ∀ typeId decoder, table.find? typeId = some decoder →
    decoder.YieldsWhenClean fun part bytes => WirePart.typeId part = typeId ∧
      WirePart.payload part = bytes ∧ WirePart.size part = bytes.length

structure Registry.IsExact (registry : Registry) : Prop where
  actions : registry.actions.IsExact
  credentials : registry.credentials.IsExact

theorem DecoderTable.IsExact.decode_tagged_yields {α : Type} [WirePart α] {table : DecoderTable α}
    (exact : table.IsExact) :
    (decodeTagged table).Yields fun part bytes =>
      bytes = WirePart.wire part ∧ WirePart.Truthful part := by
  apply (Transaction.decode_tagged_yields exact).weaken
  intro part found parts
  rcases parts with ⟨typeId, payload, rfl, rfl, rfl, size⟩
  exact ⟨rfl, size⟩

theorem Registry.IsExact.decode_from_yields {registry : Registry} (exact : registry.IsExact) :
    (decodeFrom registry).Yields fun tx bytes =>
      bytes = tx.layout ∧ tx.actions.length ≤ maxActions ∧ tx.Truthful := by
  refine (Transaction.decode_from_yields exact.actions.decode_tagged_yields
    exact.credentials.decode_tagged_yields).weaken ?_
  intro tx bytes parts
  rcases parts with ⟨layoutEq, count, actions, credential⟩
  exact ⟨layoutEq, count, actions, credential⟩

theorem Registry.IsExact.layout_of_decoded {registry : Registry} (exact : registry.IsExact)
    {bytes : List UInt8} {tx : Transaction} (decoded : ofBytes registry bytes = .ok tx) :
    bytes = tx.layout ∧ tx.actions.length ≤ maxActions ∧ tx.Truthful := by
  rcases of_bytes_eq_ok_iff.1 decoded with ⟨after, read, clean, finished⟩
  rcases exact.decode_from_yields _ tx after read clean with ⟨front, consumed, holds⟩
  have whole : bytes = front := by simpa [finished, Wire.Reader.new] using consumed.rest_eq
  rw [whole]
  exact holds

theorem Registry.stock_is_exact (crypto : Crypto) (projection : Projection) :
    (Registry.stockTables crypto projection).IsExact := by
  constructor
  · intro typeId decoder found r action after _ decoded clean
    obtain ⟨bytes, consumed, transfer, rfl, rfl, rfl⟩ :=
      Registry.stock_action_yields projection found r action after decoded clean
    exact ⟨_, consumed, rfl, rfl, Transfer.action_truthful transfer⟩
  · intro typeId decoder found r credential after _ decoded clean
    obtain ⟨bytes, consumed, ⟨scheme, signed, rfl, -⟩, rfl, rfl⟩ :=
      Registry.stock_credential_yields projection found r credential after decoded clean
    exact ⟨_, consumed, rfl, rfl, scheme.credential_truthful projection signed⟩

/-- The stock registry is exact. For an exact registry, what decodes is what is written, and
transactions decoded from different octets differ. -/
theorem wire_form_is_canonical :
    (∀ (crypto : Crypto) (projection : Projection), ∃ registry,
      Registry.stock crypto projection = .ok registry ∧ registry.IsExact) ∧
    ∀ registry : Registry, registry.IsExact →
      (∀ bytes tx, ofBytes registry bytes = .ok tx → tx.toBytes = .ok bytes) ∧
      ∀ leftBytes rightBytes left right, ofBytes registry leftBytes = .ok left →
        ofBytes registry rightBytes = .ok right →
        (left.same right = true ↔ leftBytes = rightBytes) := by
  refine ⟨fun crypto projection => ⟨_, Registry.stock_eq_tables crypto projection,
    Registry.stock_is_exact crypto projection⟩, fun registry exact => ⟨?_, ?_⟩⟩
  · intro bytes tx decoded
    rcases exact.layout_of_decoded decoded with ⟨layoutEq, count, truthful⟩
    rw [layoutEq]
    exact to_bytes_eq_layout count truthful
  · intro leftBytes rightBytes left right leftDecoded rightDecoded
    constructor
    · intro same
      rw [(exact.layout_of_decoded leftDecoded).1, (exact.layout_of_decoded rightDecoded).1]
      exact layout_eq_of_same same
    · intro same
      subst same
      rw [leftDecoded] at rightDecoded
      cases rightDecoded
      exact same_refl left

/-- The octets of a signed transfer, its key the generator of the curve, under any signature. -/
def signedTransferOctets (signature : UInt8) : List UInt8 :=
  List.replicate 48 0 ++ [1, 0] ++ List.replicate 33 7 ++ List.replicate 8 9 ++ [1, 3, 4] ++
    beBytes 32 Secp256k1.generator.x ++ beBytes 32 Secp256k1.generator.y ++
    List.replicate 65 signature

/-- A signed transfer is written as it was read, and another signature makes another transaction. -/
theorem signed_transfer_has_one_wire_form :
    ∃ left right : Transaction,
      ofBytes (Registry.stockTables Crypto.standard {}) (signedTransferOctets 5) = .ok left ∧
      ofBytes (Registry.stockTables Crypto.standard {}) (signedTransferOctets 6) = .ok right ∧
      left.toBytes = .ok (signedTransferOctets 5) ∧ left.same right = false := by
  rcases wire_form_is_canonical.1 Crypto.standard {} with ⟨registry, built, exact⟩
  cases (Registry.stock_eq_tables Crypto.standard {}).symm.trans built
  rcases wire_form_is_canonical.2 _ exact with ⟨written, distinct⟩
  have accepted : ∀ signature ∈ [5, 6], ∃ tx,
      ofBytes (Registry.stockTables Crypto.standard {}) (signedTransferOctets signature) =
        .ok tx := by
    have success : ∀ signature ∈ [5, 6],
        (ofBytes (Registry.stockTables Crypto.standard {})
          (signedTransferOctets signature)).isOk = true := by
      decide +kernel
    intro signature member
    exact Outcome.exists_of_is_ok (success signature member)
  rcases accepted 5 (by simp) with ⟨left, leftDecoded⟩
  rcases accepted 6 (by simp) with ⟨right, rightDecoded⟩
  refine ⟨left, right, leftDecoded, rightDecoded, written _ left leftDecoded, ?_⟩
  have differ := distinct _ _ left right leftDecoded rightDecoded
  rw [← Bool.not_eq_true, differ]
  decide +kernel

end SignedTx
