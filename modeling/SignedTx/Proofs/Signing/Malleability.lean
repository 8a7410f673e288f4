import SignedTx.Proofs.Signing.RecoveryByte

/-!
# Signatures without twins

The second number of a signature and its negative count for the same key, under another octet, so
recovery alone would take both. The signature is also verified as it was sent, and the upper half
does not verify: of the two, at most one is ever accepted, whatever the hash and the octet. Since
what is sent ends in the signature, a transaction that is accepted has no second form with the other
one in its place.
-/

set_option autoImplicit false

namespace SignedTx

variable {crypto : Crypto}

/-! ## Negated numbers -/

namespace Signature

def numbers (signature : Signature) : Nat × Nat := Secp256k1.split signature.compact

/-- The same first number, the second one negated modulo the order, and any octet. -/
def twin (signature : Signature) (octet : UInt8) : Signature :=
  (Secp256k1.join signature.numbers.1 (Secp256k1.order - signature.numbers.2)).append
    ⟨[octet], rfl⟩

/-- What is known of the numbers once a signature is accepted. -/
structure HasLowNumbers (signature : Signature) : Prop where
  first_pos : 1 ≤ signature.numbers.1
  first_lt : signature.numbers.1 < Secp256k1.order
  second_pos : 1 ≤ signature.numbers.2
  second_le : signature.numbers.2 ≤ (Secp256k1.order - 1) / 2

theorem first_number_lt (signature : Signature) : signature.numbers.1 < 2 ^ 256 := by
  have length : (signature.compact.toList.take 32).length = 32 := by
    rw [List.length_take, Octets.length_toList]
    rfl
  calc signature.numbers.1 < 256 ^ (signature.compact.toList.take 32).length := be_nat_lt _
    _ = 2 ^ 256 := by
      rw [length]
      decide

theorem numbers_of_twin (signature : Signature) (octet : UInt8) :
    (signature.twin octet).numbers =
      (signature.numbers.1, Secp256k1.order - signature.numbers.2) := by
  have below : Secp256k1.order < 2 ^ 256 := by decide
  have second : Secp256k1.order - signature.numbers.2 < 2 ^ 256 :=
    Nat.lt_of_le_of_lt (Nat.sub_le _ _) below
  rw [numbers, twin, compact_of_append, Secp256k1.split_join signature.first_number_lt second]

theorem low_numbers_of_recovered (checks : Secp256k1.ChecksNumbers crypto.ecdsa)
    {digest : Digest} {signature : Signature} {key : crypto.PublicKey}
    (recovered : signature.recover crypto digest = .ok key) : signature.HasLowNumbers := by
  obtain ⟨id, -, looked, verified⟩ := recover_eq_ok_iff.1 recovered
  have ranged := checks.ranged digest signature.compact id key looked
  have low := checks.low digest signature.compact key verified
  simp only [Secp256k1.inRange, Bool.and_eq_true, decide_eq_true_eq] at ranged
  have half : Secp256k1.lowBound = (Secp256k1.order - 1) / 2 := by decide
  rw [half] at low
  exact ⟨ranged.1.1.1, ranged.1.1.2, ranged.1.2, low⟩

/-- The second number and its negative add up to the order, so not both are in the lower half. -/
theorem HasLowNumbers.not_of_twin {signature : Signature} (low : signature.HasLowNumbers)
    (octet : UInt8) : ¬ (signature.twin octet).HasLowNumbers := by
  intro lowTwin
  have upper := lowTwin.second_le
  have lower := low.second_le
  have positive := low.second_pos
  rw [numbers_of_twin] at upper
  have odd : (Secp256k1.order - 1) / 2 + (Secp256k1.order - 1) / 2 < Secp256k1.order := by decide
  omega

theorem twin_refused (checks : Secp256k1.ChecksNumbers crypto.ecdsa) {signature : Signature}
    (low : signature.HasLowNumbers) (octet : UInt8) (digest : Digest) :
    ∃ e, (signature.twin octet).recover crypto digest = .error e := by
  apply Outcome.exists_error
  intro key recovered
  exact low.not_of_twin octet (low_numbers_of_recovered checks recovered)

end Signature

/-! ## What is sent -/

namespace StockScheme

variable {projection : Projection} {scheme : StockScheme}

theorem low_numbers_of_verified (checks : Secp256k1.ChecksNumbers crypto.ecdsa)
    {signed : SignedBy crypto} {draft : Draft}
    (verified : (scheme.credential projection signed).verify draft = .ok ()) :
    signed.signature.HasLowNumbers := by
  rw [scheme.verify_eq] at verified
  obtain ⟨digest, -, counted⟩ := Outcome.bind_eq_ok_iff.1 verified
  exact Signature.low_numbers_of_recovered checks (SignedBy.verify_eq_ok_iff.1 counted)

theorem twin_refused (checks : Secp256k1.ChecksNumbers crypto.ecdsa) {signature : Signature}
    (low : signature.HasLowNumbers) (signer : crypto.PublicKey) (octet : UInt8) (draft : Draft) :
    ∃ e, (scheme.credential projection ⟨signer, signature.twin octet⟩).verify draft =
      .error e := by
  apply Outcome.exists_error
  intro done verified
  have lowTwin := low_numbers_of_verified checks verified
  exact low.not_of_twin octet lowTwin

end StockScheme

/-- What is read and verifies ends in its credential's signature, and that has low numbers. -/
theorem Registry.ends_in_low_numbers (checks : Secp256k1.ChecksNumbers crypto.ecdsa)
    {projection : Projection} {bytes : List UInt8} {tx : Transaction}
    (decoded : Transaction.ofBytes (stockTables crypto projection) bytes = .ok tx)
    (verified : tx.verify = .ok ()) :
    ∃ (front : List UInt8) (scheme : StockScheme) (signer : crypto.PublicKey)
      (signature : Signature), bytes = front ++ signature.toList ∧
        tx.credential = some (scheme.credential projection ⟨signer, signature⟩) ∧
        signature.HasLowNumbers := by
  obtain ⟨rfl, stock⟩ := (of_bytes_stock_eq_ok_iff projection).mp decoded
  cases found : tx.credential with
  | none =>
      rw [Transaction.verify, found] at verified
      cases verified
  | some credential =>
      rw [Transaction.verify_of_credential found] at verified
      obtain ⟨scheme, signed, rfl, -⟩ := stock.credential credential found
      refine ⟨tx.toDraft.layout ++ 1 :: scheme.typeId :: scheme.storedKey crypto signed.signer,
        scheme, signed.signer, signed.signature, ?_, rfl,
        StockScheme.low_numbers_of_verified checks verified⟩
      have sent : (scheme.credential projection signed).wire = scheme.typeId ::
          (scheme.storedKey crypto signed.signer ++ signed.signature.toList) := by
        rw [Credential.wire, scheme.type_id_eq, scheme.payload_eq]
      rw [Transaction.layout, found, Transaction.credentialLayout, sent, List.append_assoc,
        List.cons_append, List.cons_append]

theorem Registry.twin_form_refused (checks : Secp256k1.ChecksNumbers crypto.ecdsa)
    {projection : Projection} {front : List UInt8} {signature : Signature} {other : Transaction}
    (low : signature.HasLowNumbers) (octet : UInt8)
    (decoded : Transaction.ofBytes (stockTables crypto projection)
      (front ++ (signature.twin octet).toList) = .ok other) :
    ∃ e, other.verify = .error e := by
  apply Outcome.exists_error
  intro done verified
  obtain ⟨otherFront, scheme, signer, tail, sent, -, lowTail⟩ :=
    ends_in_low_numbers checks decoded verified
  rw [← Octets.eq_of_suffix sent] at lowTail
  exact low.not_of_twin octet lowTail

/-- A signature that is accepted has low numbers, so with the second one negated it is refused for
any hash and any octet, and under either scheme. What is read and verifies ends in its signature;
the same octets with the negated signature at their end are not both read and verified. -/
theorem signatures_are_not_malleable (crypto : Crypto)
    (checks : Secp256k1.ChecksNumbers crypto.ecdsa) :
    (∀ digest signature key, Signature.recover crypto digest signature = .ok key →
      signature.HasLowNumbers ∧ ∀ octet otherDigest,
        ∃ e, (signature.twin octet).recover crypto otherDigest = .error e) ∧
      (∀ (projection : Projection) (scheme : StockScheme) (signed : SignedBy crypto)
        (draft : Draft), (scheme.credential projection signed).verify draft = .ok () →
        ∀ (other : StockScheme) (signer : crypto.PublicKey) (octet : UInt8) (otherDraft : Draft),
          ∃ e, (other.credential projection ⟨signer, signed.signature.twin octet⟩).verify
            otherDraft = .error e) ∧
      ∀ (projection : Projection) (registry : Registry) (bytes : List UInt8) (tx : Transaction),
        Registry.stock crypto projection = .ok registry →
        Transaction.ofBytes registry bytes = .ok tx → tx.verify = .ok () →
        ∃ (front : List UInt8) (scheme : StockScheme) (signer : crypto.PublicKey)
          (signature : Signature), bytes = front ++ signature.toList ∧
            tx.credential = some (scheme.credential projection ⟨signer, signature⟩) ∧
            ∀ octet other,
              Transaction.ofBytes registry (front ++ (signature.twin octet).toList) =
                .ok other → ∃ e, other.verify = .error e := by
  constructor
  · intro digest signature key recovered
    have low := Signature.low_numbers_of_recovered checks recovered
    exact ⟨low, fun octet otherDigest => Signature.twin_refused checks low octet otherDigest⟩
  constructor
  · intro projection scheme signed draft verified other signer octet otherDraft
    have low := StockScheme.low_numbers_of_verified checks verified
    exact StockScheme.twin_refused checks low signer octet otherDraft
  · intro projection registry bytes tx built decoded verified
    cases (Registry.stock_eq_tables crypto projection).symm.trans built
    obtain ⟨front, scheme, signer, signature, sent, signed, low⟩ :=
      Registry.ends_in_low_numbers checks decoded verified
    refine ⟨front, scheme, signer, signature, sent, signed, ?_⟩
    intro octet other otherDecoded
    exact Registry.twin_form_refused checks low octet otherDecoded

/-- The generator's signature of its transfer, under every octet and for every hash. -/
theorem generator_signature_has_no_twin :
    Secp256k1.ChecksNumbers Crypto.standard.ecdsa ∧
      generatorSignature.recover Crypto.standard Secp256k1.sampleDigest = .ok generatorKey ∧
      generatorSignature.HasLowNumbers ∧
      (∀ octet digest,
        ∃ e, (generatorSignature.twin octet).recover Crypto.standard digest = .error e) ∧
      generatorTransfer.verify = .ok () ∧
      ∃ front, Transaction.ofBytes (Registry.stockTables Crypto.standard {})
          (front ++ generatorSignature.toList) = .ok generatorTransfer ∧
        ∀ octet other, Transaction.ofBytes (Registry.stockTables Crypto.standard {})
            (front ++ (generatorSignature.twin octet).toList) = .ok other →
          ∃ e, other.verify = .error e := by
  have checks : Secp256k1.ChecksNumbers Crypto.standard.ecdsa :=
    Secp256k1.checks_numbers Sha256.sha256
  obtain ⟨hashes, -, forms⟩ := signatures_are_not_malleable Crypto.standard checks
  obtain ⟨low, refused⟩ := hashes _ _ _ generator_recovered
  have verified : generatorTransfer.verify = .ok () :=
    generator_transfer_verifies generator_recovered
  have decoded := (Registry.of_bytes_stock_eq_ok_iff {}).mpr ⟨rfl, generator_transfer_is_stock⟩
  obtain ⟨front, scheme, signer, signature, sent, signed, others⟩ :=
    forms {} _ _ _ (Registry.stock_eq_tables Crypto.standard {}) decoded verified
  have payloads : StockScheme.raw.storedKey Crypto.standard generatorKey ++
      generatorSignature.toList = scheme.storedKey Crypto.standard signer ++ signature.toList := by
    rw [← scheme.payload_eq {} ⟨signer, signature⟩, ← Option.some.inj signed]
    exact (StockScheme.raw.payload_eq {} ⟨generatorKey, generatorSignature⟩).symm
  have same : generatorSignature = signature := Octets.eq_of_suffix payloads
  rw [sent, ← same] at decoded
  rw [← same] at others
  exact ⟨checks, generator_recovered, low, refused, verified, front, decoded, others⟩

end SignedTx
