import SignedTx.Proofs.Signing.Actor

/-!
# Recovery octets

The octet behind the two numbers says which of four keys is meant. Octets outside of 27 to 30 are
refused by their number, before a key is looked for. 27 and 28 take the first number as a
coordinate; 29 and 30 add the order to it, so they count only where the sum is still below the
field's prime. Few signatures are like that, but whoever wants one can make it for any hash.
-/

set_option autoImplicit false

namespace SignedTx

variable {crypto : Crypto}

namespace Signature

/-- The error for an octet that names no key. -/
def unnamedKey (signature : Signature) : TxError :=
  .signatureRecovery s!"invalid recovery byte {signature.recoveryByte}"

theorem recover_of_unnamed {digest : Digest} {signature : Signature}
    (outside : signature.recoveryByte < 27 ∨ 30 < signature.recoveryByte) :
    signature.recover crypto digest = .error signature.unnamedKey := by
  have unnamed : signature.recoveryId? = none := by
    rw [Option.eq_none_iff_forall_ne_some]
    intro id named
    have byte := recovery_id_eq_some.1 named
    have bounded := id.isLt
    rcases outside with below | above
    · have small : signature.recoveryByte.toNat < 27 := below
      omega
    · have large : 30 < signature.recoveryByte.toNat := above
      omega
  rw [recover, unnamed, unnamedKey]

/-- The octet takes the first number as it is, or adds the order within the field. -/
def HasUsableByte (signature : Signature) : Prop :=
  signature.recoveryByte ∈ [27, 28] ∨ signature.recoveryByte ∈ [29, 30] ∧
    (Secp256k1.split signature.compact).1 + Secp256k1.order < Secp256k1.fieldPrime

theorem direct_octet :
    ∀ id : Fin 4, ¬ id.val / 2 = 1 → UInt8.ofNat (27 + id.val) ∈ [27, 28] := by
  decide

theorem wrapped_octet :
    ∀ id : Fin 4, id.val / 2 = 1 → UInt8.ofNat (27 + id.val) ∈ [29, 30] := by
  decide

theorem usable_byte_of_recovered (wraps : Secp256k1.WrapsWithinField crypto.ecdsa)
    {digest : Digest} {signature : Signature} {key : crypto.PublicKey}
    (recovered : signature.recover crypto digest = .ok key) : signature.HasUsableByte := by
  obtain ⟨id, byte, looked, -⟩ := recover_eq_ok_iff.1 recovered
  have octet : signature.recoveryByte = UInt8.ofNat (27 + id.val) := by
    rw [← byte, UInt8.ofNat_toNat]
  rw [HasUsableByte, octet]
  by_cases wrapped : id.val / 2 = 1
  · exact .inr ⟨wrapped_octet id wrapped, wraps digest signature.compact id key looked wrapped⟩
  · exact .inl (direct_octet id wrapped)

end Signature

/-- What is accepted has a usable octet, be it a signature of a hash, an account's or one of either
scheme; an octet that names no key is refused with its number in all three places. -/
theorem accepted_signature_has_usable_byte (crypto : Crypto)
    (wraps : Secp256k1.WrapsWithinField crypto.ecdsa) (projection : Projection)
    (scheme : StockScheme) (signature : Signature) :
    (∀ digest key, signature.recover crypto digest = .ok key → signature.HasUsableByte) ∧
      (∀ digest account, (signature.recover crypto digest).map (Account.ofKey crypto) =
        .ok account → signature.HasUsableByte) ∧
      (∀ (signer : crypto.PublicKey) (draft : Draft),
        (scheme.credential projection ⟨signer, signature⟩).verify draft = .ok () →
          signature.HasUsableByte) ∧
      (signature.recoveryByte < 27 ∨ 30 < signature.recoveryByte → ∀ digest,
        signature.recover crypto digest = .error signature.unnamedKey ∧
        (signature.recover crypto digest).map (Account.ofKey crypto) =
          .error signature.unnamedKey ∧
        ∀ (signer : crypto.PublicKey) (draft : Draft),
          scheme.signingHash crypto projection draft = .ok digest →
          (scheme.credential projection ⟨signer, signature⟩).verify draft =
            .error signature.unnamedKey) := by
  have usable : ∀ digest key, signature.recover crypto digest = .ok key →
      signature.HasUsableByte := by
    intro digest key recovered
    exact Signature.usable_byte_of_recovered wraps recovered
  constructor
  · exact usable
  constructor
  · intro digest account named
    obtain ⟨key, recovered, -⟩ := Outcome.map_eq_ok_iff.1 named
    exact usable digest key recovered
  constructor
  · intro signer draft verified
    rw [scheme.verify_eq] at verified
    obtain ⟨digest, -, counted⟩ := Outcome.bind_eq_ok_iff.1 verified
    exact usable digest signer (SignedBy.verify_eq_ok_iff.1 counted)
  · intro outside digest
    have refused : signature.recover crypto digest = .error signature.unnamedKey :=
      Signature.recover_of_unnamed outside
    constructor
    · exact refused
    constructor
    · rw [refused]
      rfl
    · intro signer draft hashed
      rw [scheme.verify_of_signing_hash projection hashed, SignedBy.verify, refused]
      rfl

/-! ## A coordinate with the order added -/

/-- Any signature of the generator's transfer makes it verify, with the key that it gives back. -/
theorem generator_transfer_verifies {signed : SignedBy Crypto.standard}
    (recovered : signed.signature.recover Crypto.standard Secp256k1.sampleDigest =
      .ok signed.signer) :
    (generatorTransfer.withCredential (RawScheme.credential signed)).verify = .ok () := by
  have hashed : StockScheme.raw.signingHash Crypto.standard {} generatorTransfer.toDraft =
      .ok Secp256k1.sampleDigest := generator_hash
  change (StockScheme.raw.credential {} signed).verify generatorTransfer.toDraft = .ok ()
  rw [StockScheme.raw.verify_of_signing_hash {} hashed]
  exact SignedBy.verify_eq_ok_iff.2 recovered

def wrappedSignature : Signature := Signature.ofParts Secp256k1.wrappedCompact ⟨2, by decide⟩

def wrappedKey : Crypto.standard.PublicKey := Secp256k1.wrappedKey

theorem wrapped_signature_recovered :
    wrappedSignature.recover Crypto.standard Secp256k1.sampleDigest = .ok wrappedKey :=
  Signature.recover_of_parts Secp256k1.standard_recovers_wrapped
    Secp256k1.standard_verifies_wrapped

theorem wrapped_signature_has_usable_byte :
    Secp256k1.WrapsWithinField Crypto.standard.ecdsa ∧
      wrappedSignature.recover Crypto.standard Secp256k1.sampleDigest = .ok wrappedKey ∧
      wrappedSignature.HasUsableByte := by
  have wraps : Secp256k1.WrapsWithinField Crypto.standard.ecdsa :=
    Secp256k1.wraps_within_field Sha256.sha256
  have usable := (accepted_signature_has_usable_byte Crypto.standard wraps {} .raw
    wrappedSignature).1
  exact ⟨wraps, wrapped_signature_recovered, usable _ _ wrapped_signature_recovered⟩

/-- The same transfer as the generator's, by the other key. -/
def wrappedTransfer : Transaction :=
  generatorTransfer.withCredential (RawScheme.credential ⟨wrappedKey, wrappedSignature⟩)

/-- A transaction that is sent, read and verified has a signature with the octet 29. -/
theorem octet_above_the_two_is_accepted :
    wrappedSignature.recoveryByte = 29 ∧
      wrappedSignature.recover Crypto.standard Secp256k1.sampleDigest = .ok wrappedKey ∧
      wrappedTransfer.verify = .ok () ∧
      ∃ octets, wrappedTransfer.toBytes = .ok octets ∧
        Transaction.ofBytes (Registry.stockTables Crypto.standard {}) octets =
          .ok wrappedTransfer := by
  have parsed : Crypto.standard.parseKey (StockScheme.raw.storedKey Crypto.standard wrappedKey) =
      .ok wrappedKey := StockScheme.raw.parse_key_of_stored wrappedKey.parse_uncompressed
  exact ⟨by decide, wrapped_signature_recovered,
    generator_transfer_verifies wrapped_signature_recovered,
    generator_transfer_is_stock.with_credential ⟨.raw, _, rfl, parsed⟩⟩

end SignedTx
