import SignedTx.Proofs.Signing.Actor
import SignedTx.Proofs.Signing.TransferDocument
import SignedTx.Proofs.Text.Bech32
import SignedTx.Proofs.Text.Instant

/-!
# Signing changes nothing else

What a stock signer makes of transfers is read back with its credential, verifies, and has the
signer's address as its actor; header, actions and digest are as before, and the size grows by what
the signer said. Of the signature library this needs two facts about the key: what it signs gives
back the key, and the serialized key parses.
-/

set_option autoImplicit false

namespace SignedTx

/-- The library signs a hash with a key, and the signature gives back the key's public key, under
which it counts. -/
def Crypto.SignsBack (crypto : Crypto) (secret : crypto.SecretKey) (digest : Digest) : Prop :=
  ∃ key compact id, crypto.ecdsa.publicKey? secret = some key ∧
    crypto.ecdsa.sign? secret digest = some (compact, id) ∧
    crypto.ecdsa.recover? digest compact id = some key ∧
    crypto.ecdsa.verify digest compact key = true

variable {crypto : Crypto}

/-! ## Stock signers -/

theorem Crypto.public_key_of_derived {secret : crypto.SecretKey} {key : crypto.PublicKey}
    (derived : crypto.ecdsa.publicKey? secret = some key) : crypto.publicKey secret = .ok key := by
  rw [publicKey, derived]

namespace KeyPair

/-- A pair that is read from octets holds the public key of its secret key. -/
theorem public_key_of_octets {bytes : List UInt8} {pair : KeyPair crypto}
    (read : ofOctets crypto bytes = .ok pair) :
    crypto.publicKey pair.secret = .ok pair.publicKey := by
  unfold ofOctets at read
  cases found : crypto.ecdsa.secret? bytes with
  | none => simp [found] at read
  | some secret =>
      simp only [found] at read
      rcases Outcome.map_eq_ok_iff.1 read with ⟨key, derived, rfl⟩
      exact derived

/-- The signature that a pair makes gives back its public key. -/
theorem recover_of_signs_back {pair : KeyPair crypto} {digest : Digest}
    (paired : crypto.publicKey pair.secret = .ok pair.publicKey)
    (signs : crypto.SignsBack pair.secret digest) :
    ∃ signature, Signature.sign crypto pair.secret digest = .ok signature ∧
      signature.recover crypto digest = .ok pair.publicKey := by
  obtain ⟨key, compact, id, derived, made, recovered, counts⟩ := signs
  have same : key = pair.publicKey :=
    Except.ok.inj ((Crypto.public_key_of_derived derived).symm.trans paired)
  subst same
  refine ⟨Signature.ofParts compact id, ?_, Signature.recover_of_parts recovered counts⟩
  rw [Signature.sign, made]

end KeyPair

namespace StockScheme

variable (projection : Projection) (scheme : StockScheme)

def signer (pair : KeyPair crypto) : StockScheme → Signer
  | raw => pair.rawSigner
  | typed => pair.typedSigner projection

theorem sign_eq (pair : KeyPair crypto) (draft : Draft) :
    (scheme.signer projection pair).sign draft = do
      let digest ← scheme.signingHash crypto projection draft
      let signature ← Signature.sign crypto pair.secret digest
      return scheme.credential projection ⟨pair.publicKey, signature⟩ := by
  cases scheme <;> rfl

theorem sign_of_signature {pair : KeyPair crypto} {draft : Draft} {digest : Digest}
    {signature : Signature} (hashed : scheme.signingHash crypto projection draft = .ok digest)
    (made : Signature.sign crypto pair.secret digest = .ok signature) :
    (scheme.signer projection pair).sign draft =
      .ok (scheme.credential projection ⟨pair.publicKey, signature⟩) := by
  rw [sign_eq]
  exact Outcome.bind_eq_ok_iff.2
    ⟨digest, hashed, Outcome.bind_eq_ok_iff.2 ⟨signature, made, rfl⟩⟩

theorem max_size_eq (pair : KeyPair crypto) (signed : SignedBy crypto) :
    (scheme.signer projection pair).maxSize = 1 + (scheme.credential projection signed).size := by
  cases scheme <;> rfl

/-- What a scheme can sign: as many transfers as can be sent, or one transfer that can be shown, at
a time and under a human-readable part that have texts. -/
def Suits (header : Header) (transfers : List Transfer) : StockScheme → Prop
  | raw => transfers.length ≤ maxActions
  | typed => transfers.length = 1 ∧ Instant.isInRange (header.timestamp.toInt.fdiv 1000) = true ∧
      ∃ seen, Bech32.checkHrp projection.presentation.hrp = .ok seen

variable {projection scheme}

theorem Suits.carries {draft : Draft} {transfers : List Transfer}
    (suits : scheme.Suits projection draft.header transfers)
    (actions : draft.actions = transfers.map Transfer.toAction) : draft.Carries transfers := by
  refine ⟨actions, ?_⟩
  cases scheme with
  | raw => exact suits
  | typed =>
      have one : transfers.length = 1 := suits.1
      rw [one]
      decide

theorem Suits.has_signing_hash {draft : Draft} {transfers : List Transfer}
    (suits : scheme.Suits projection draft.header transfers)
    (actions : draft.actions = transfers.map Transfer.toAction) :
    ∃ digest, scheme.signingHash crypto projection draft = .ok digest := by
  cases scheme with
  | raw =>
      have made : draft.Carries transfers := Suits.carries suits actions
      exact ⟨_, RawScheme.signing_hash_eq_ok.2 ⟨draft.layout, made.digest_eq, rfl⟩⟩
  | typed =>
      obtain ⟨one, ranged, seen, usable⟩ := suits
      obtain ⟨transfer, rfl⟩ := List.length_eq_one_iff.mp one
      obtain ⟨expiration, expires⟩ := Instant.to_text_of_in_range ranged
      obtain ⟨recipient, addressed⟩ := transfer.recipient.to_bech32_of_hrp usable
      have shown := Projection.document_of_texts actions expires addressed
      obtain ⟨preimage, found, -⟩ := Projection.preimage_of_transfer crypto.keccak projection
        draft.header.chainId expiration recipient draft.header.maxFee transfer.value
      exact ⟨_, Projection.signing_hash_eq_ok.2 ⟨_, preimage, shown, found, rfl⟩⟩

end StockScheme

/-- Signing transfers succeeds, whether or not they were signed before. What comes back has the same
header, actions and digest, verifies, has the signer's address as its actor, and is larger than the
unsigned transaction by what the signer announced. -/
theorem signing_changes_nothing_else (crypto : Crypto) (projection : Projection)
    (registry : Registry) (scheme : StockScheme) (pair : KeyPair crypto) (tx : Transaction)
    (transfers : List Transfer) (built : Registry.stock crypto projection = .ok registry)
    (paired : crypto.publicKey pair.secret = .ok pair.publicKey)
    (actions : tx.actions = transfers.map Transfer.toAction)
    (suits : scheme.Suits projection tx.header transfers)
    (signs : ∀ digest, scheme.signingHash crypto projection tx.toDraft = .ok digest →
      crypto.SignsBack pair.secret digest)
    (parses : crypto.ecdsa.parse? (scheme.storedKey crypto pair.publicKey) =
      some pair.publicKey) :
    ∃ signed digest, tx.sign (scheme.signer projection pair) registry = .ok signed ∧
      signed.header = tx.header ∧ signed.actions = tx.actions ∧
      tx.digest = .ok digest ∧ signed.digest = .ok digest ∧
      signed.verify = .ok () ∧
      signed.actor = some (pair.address scheme.typeId) ∧
      signed.size = Transaction.size ⟨tx.toDraft, none⟩ +
        (scheme.signer projection pair).maxSize := by
  cases (Registry.stock_eq_tables crypto projection).symm.trans built
  have made : tx.toDraft.Carries transfers := suits.carries actions
  obtain ⟨hash, hashed⟩ := suits.has_signing_hash actions
  obtain ⟨signature, signedHash, recovered⟩ := pair.recover_of_signs_back paired (signs hash hashed)
  have credential := scheme.sign_of_signature projection hashed signedHash
  have isStock : Registry.IsStock crypto projection
      (scheme.credential projection ⟨pair.publicKey, signature⟩) :=
    ⟨scheme, _, rfl, scheme.parse_key_of_stored parses⟩
  -- What stood in the place of the credential does not count, so the unsigned draft is signed.
  obtain ⟨octets, written, decoded⟩ := made.unsigned_is_stock.with_credential isStock
  have signed : tx.sign (scheme.signer projection pair)
      (Registry.stockTables crypto projection) = .ok (tx.withCredential
        (scheme.credential projection ⟨pair.publicKey, signature⟩)) := by
    rw [Transaction.sign]
    exact Outcome.bind_eq_ok_iff.2
      ⟨_, credential, Outcome.bind_eq_ok_iff.2 ⟨octets, written, decoded⟩⟩
  refine ⟨_, _, signed, rfl, rfl, made.digest_eq, made.digest_eq, ?_, ?_, ?_⟩
  · rw [Transaction.verify_of_credential rfl]
    apply (scheme.verify_of_signing_hash projection hashed).trans
    exact SignedBy.verify_eq_ok_iff.2 recovered
  · exact congrArg some (scheme.actor_eq projection _)
  · rw [scheme.max_size_eq projection pair ⟨pair.publicKey, signature⟩]
    rfl

/-! ## Signing again -/

def generatorPair : KeyPair Crypto.standard := ⟨⟨1⟩, generatorKey⟩

theorem generator_pair_of_octets :
    KeyPair.ofOctets Crypto.standard (beBytes 32 1) = .ok generatorPair := by
  have derived : Crypto.standard.publicKey ⟨1⟩ = .ok generatorKey :=
    Crypto.public_key_of_derived Secp256k1.standard_public_key_of_one
  rw [KeyPair.ofOctets, Secp256k1.standard_secret_of_one]
  exact Outcome.map_eq_ok_iff.2 ⟨generatorKey, derived, rfl⟩

theorem generator_signs_back :
    Crypto.standard.SignsBack generatorPair.secret Secp256k1.sampleDigest :=
  ⟨generatorKey, Secp256k1.sampleCompact, 1, Secp256k1.standard_public_key_of_one,
    Secp256k1.standard_signs, Secp256k1.standard_recovers, Secp256k1.standard_verifies⟩

/-- The transfer, signed as it is, is signed again by the pair that is read from octets. -/
theorem generator_signs_again : ∃ signed digest,
    KeyPair.ofOctets Crypto.standard (beBytes 32 1) = .ok generatorPair ∧
      generatorTransfer.sign generatorPair.rawSigner (Registry.stockTables Crypto.standard {}) =
        .ok signed ∧
      signed.header = generatorTransfer.header ∧ signed.actions = generatorTransfer.actions ∧
      generatorTransfer.digest = .ok digest ∧ signed.digest = .ok digest ∧
      signed.verify = .ok () ∧ signed.actor = some (generatorPair.address RawScheme.typeId) ∧
      signed.size = 223 := by
  have few : StockScheme.raw.Suits {} generatorTransfer.header [⟨⟨Octets.zero 33⟩, 7⟩] := by
    change 1 ≤ maxActions
    decide
  have signs : ∀ digest, StockScheme.raw.signingHash Crypto.standard {}
      generatorTransfer.toDraft = .ok digest →
      Crypto.standard.SignsBack generatorPair.secret digest := by
    intro digest hashed
    have known := generator_hash
    cases Except.ok.inj (known.symm.trans hashed)
    exact generator_signs_back
  obtain ⟨signed, digest, made, header, actions, before, after, verified, actor, size⟩ :=
    signing_changes_nothing_else Crypto.standard {} _ .raw generatorPair generatorTransfer
      [⟨⟨Octets.zero 33⟩, 7⟩] (Registry.stock_eq_tables Crypto.standard {})
      (KeyPair.public_key_of_octets generator_pair_of_octets) rfl few signs
      generatorKey.parse_uncompressed
  exact ⟨signed, digest, generator_pair_of_octets, made, header, actions, before, after, verified,
    actor, size⟩

end SignedTx
