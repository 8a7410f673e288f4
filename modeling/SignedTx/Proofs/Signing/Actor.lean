import SignedTx.Proofs.Crypto.Secp256k1
import SignedTx.Proofs.Outcome
import SignedTx.Proofs.Signing.Stock

/-!
# The actor is the recovered signer

A stock transaction verifies exactly if its signature, under the hash that its scheme signs, gives
back the stored key, and its actor is made of that key. Any other key in its place is noticed. The
signature library is open: that nobody else can make such a signature is not claimed.
-/

set_option autoImplicit false

namespace SignedTx

variable {crypto : Crypto}

/-! ## Stored and recovered keys -/

namespace Signature

theorem compact_of_append (compact : CompactSignature) (octet : Octets 1) :
    Signature.compact (compact.append octet) = compact := by
  apply Octets.ext
  exact List.take_left' compact.length_toList

theorem compact_of_parts (compact : CompactSignature) (id : Fin 4) :
    (ofParts compact id).compact = compact :=
  compact_of_append compact _

theorem byte_of_parts (compact : CompactSignature) (id : Fin 4) :
    (ofParts compact id).recoveryByte.toNat = 27 + id.val := by
  have value : ∀ id : Fin 4, (recoveryOffset + UInt8.ofNat id.val).toNat = 27 + id.val := by
    decide
  have last : (ofParts compact id).toList.drop 64 = [recoveryOffset + UInt8.ofNat id.val] :=
    List.drop_left' compact.length_toList
  rw [recoveryByte, last, List.headD_cons, value]

theorem recovery_id_eq_some {signature : Signature} {id : Fin 4} :
    signature.recoveryId? = some id ↔ signature.recoveryByte.toNat = 27 + id.val := by
  have bounded := id.isLt
  by_cases inside : 27 ≤ signature.recoveryByte.toNat ∧ signature.recoveryByte.toNat < 31
  · simp only [recoveryId?]
    rw [dif_pos inside, Option.some_inj, Fin.ext_iff]
    change signature.recoveryByte.toNat - 27 = id.val ↔ _
    omega
  · simp only [recoveryId?]
    rw [dif_neg inside]
    constructor
    · intro found
      cases found
    · intro byte
      omega

/-- What is recovered is named by the octet, and the signature verifies under it. -/
theorem recover_eq_ok_iff {digest : Digest} {signature : Signature} {key : crypto.PublicKey} :
    signature.recover crypto digest = .ok key ↔
      ∃ id : Fin 4, signature.recoveryByte.toNat = 27 + id.val ∧
        crypto.ecdsa.recover? digest signature.compact id = some key ∧
        crypto.ecdsa.verify digest signature.compact key = true := by
  constructor
  · intro recovered
    unfold recover at recovered
    split at recovered
    · cases recovered
    · rename_i id named
      split at recovered
      · cases recovered
      · rename_i found looked
        obtain ⟨verified, same⟩ := Outcome.passage_eq_ok_iff.1 recovered
        cases same
        exact ⟨id, recovery_id_eq_some.1 named, looked, verified⟩
  · intro parts
    obtain ⟨id, byte, looked, verified⟩ := parts
    rw [recover, recovery_id_eq_some.2 byte]
    simp only [looked, verified, if_true]

theorem recover_of_parts {digest : Digest} {compact : CompactSignature} {id : Fin 4}
    {key : crypto.PublicKey} (recovered : crypto.ecdsa.recover? digest compact id = some key)
    (verified : crypto.ecdsa.verify digest compact key = true) :
    (ofParts compact id).recover crypto digest = .ok key := by
  have same : (ofParts compact id).compact = compact := compact_of_parts compact id
  rw [recover_eq_ok_iff, same]
  exact ⟨id, byte_of_parts compact id, recovered, verified⟩

end Signature

namespace SignedBy

theorem verify_of_recovered {signed : SignedBy crypto} {digest : Digest} {key : crypto.PublicKey}
    (recovered : signed.signature.recover crypto digest = .ok key) :
    signed.verify digest = if key = signed.signer then .ok () else .error .signerMismatch := by
  rw [verify, recovered]
  rfl

theorem verify_eq_ok_iff {signed : SignedBy crypto} {digest : Digest} :
    signed.verify digest = .ok () ↔
      signed.signature.recover crypto digest = .ok signed.signer := by
  constructor
  · intro verified
    rcases Outcome.bind_eq_ok_iff.1 verified with ⟨key, recovered, compared⟩
    rw [recovered, (Outcome.passage_eq_ok_iff.1 compared).1]
  · intro recovered
    rw [verify_of_recovered recovered, if_pos rfl]

end SignedBy

namespace StockScheme

variable (projection : Projection) (scheme : StockScheme)

theorem verify_eq (signed : SignedBy crypto) (draft : Draft) :
    (scheme.credential projection signed).verify draft =
      scheme.signingHash crypto projection draft >>= signed.verify := by
  cases scheme <;> rfl

theorem verify_of_signing_hash {signed : SignedBy crypto} {draft : Draft} {digest : Digest}
    (hashed : scheme.signingHash crypto projection draft = .ok digest) :
    (scheme.credential projection signed).verify draft = signed.verify digest := by
  rw [verify_eq, hashed]
  rfl

theorem actor_eq (signed : SignedBy crypto) :
    (scheme.credential projection signed).actor =
      Address.ofKey crypto scheme.typeId signed.signer := by
  cases scheme <;> rfl

theorem sponsor_eq (signed : SignedBy crypto) :
    (scheme.credential projection signed).sponsor =
      Address.ofKey crypto scheme.typeId signed.signer := by
  cases scheme <;> rfl

end StockScheme

/-! ## Accounts -/

/-- The octets of a key's address, its coordinates hashed. -/
theorem Address.octets_of_key (typeId : UInt8) (key : crypto.PublicKey) :
    (Address.ofKey crypto typeId key).toList = typeId :: (List.replicate 12 0 ++
      (crypto.keccak ((crypto.ecdsa.uncompressed key).toList.drop 1)).toList.drop 12) :=
  rfl

theorem Account.of_address_to_address (account : Account) (typeId : UInt8) :
    Account.ofAddress (account.toAddress typeId) typeId = .ok account := by
  have sameId : (account.toAddress typeId).typeId = typeId := rfl
  have payload : (account.toAddress typeId).payload = List.replicate 12 0 ++ account.toList := rfl
  have padding : ((account.toAddress typeId).payload.take 12).all (· = 0) = true := by
    rw [payload, List.take_left' (List.length_replicate)]
    decide
  have rest : (account.toAddress typeId).payload.drop 12 = account.toList := by
    rw [payload, List.drop_left' (List.length_replicate)]
  rw [Account.ofAddress, if_neg (not_not_intro sameId)]
  simp only [padding, rest, Octets.ofList?_toList]

/-! ## Transactions -/

def Transaction.withCredential (tx : Transaction) (credential : Credential) : Transaction :=
  { tx with credential := some credential }

theorem Transaction.verify_of_credential {tx : Transaction} {credential : Credential}
    (signed : tx.credential = some credential) : tx.verify = credential.verify tx.toDraft := by
  rw [verify, signed]

/-- Another stock credential in place of the old one makes a transaction that can be sent. -/
theorem Registry.IsStockTransaction.with_credential {projection : Projection} {tx : Transaction}
    {credential : Credential} (stock : IsStockTransaction projection crypto tx)
    (isStock : IsStock crypto projection credential) : ∃ octets,
      (tx.withCredential credential).toBytes = .ok octets ∧
        Transaction.ofBytes (stockTables crypto projection) octets =
          .ok (tx.withCredential credential) := by
  have replaced : IsStockTransaction projection crypto (tx.withCredential credential) := by
    refine ⟨stock.count, stock.transfers, ?_⟩
    intro found member
    cases member
    exact isStock
  exact ⟨_, Transaction.to_bytes_eq_layout replaced.count (replaced.truthful projection),
    (of_bytes_stock_eq_ok_iff projection).mpr ⟨rfl, replaced⟩⟩

/-- What decodes and verifies has the stored key as its recovered signer and that key's address as
its actor and sponsor. Under any other key the same signature of the same draft is refused, also
where the other key is sent. -/
theorem actor_is_recovered_signer (crypto : Crypto) (projection : Projection) (registry : Registry)
    (bytes : List UInt8) (tx : Transaction) (credential : Credential)
    (built : Registry.stock crypto projection = .ok registry)
    (decoded : Transaction.ofBytes registry bytes = .ok tx)
    (signed : tx.credential = some credential) (verified : tx.verify = .ok ()) :
    ∃ (scheme : StockScheme) (digest : Digest) (signer : crypto.PublicKey) (signature : Signature)
      (actor : Address),
      credential.typeId = scheme.typeId ∧
      credential.payload = scheme.storedKey crypto signer ++ signature.toList ∧
      crypto.parseKey (scheme.storedKey crypto signer) = .ok signer ∧
      scheme.signingHash crypto projection tx.toDraft = .ok digest ∧
      signature.recover crypto digest = .ok signer ∧
      tx.actor = some actor ∧ tx.sponsor = some actor ∧
      actor.toList = scheme.typeId :: (List.replicate 12 0 ++
        (crypto.keccak ((crypto.ecdsa.uncompressed signer).toList.drop 1)).toList.drop 12) ∧
      Account.ofAddress actor scheme.typeId =
        (signature.recover crypto digest).map (Account.ofKey crypto) ∧
      ∀ other : crypto.PublicKey, other ≠ signer →
        (tx.withCredential (scheme.credential projection ⟨other, signature⟩)).verify =
            .error .signerMismatch ∧
          (crypto.parseKey (scheme.storedKey crypto other) = .ok other → ∃ octets,
            (tx.withCredential (scheme.credential projection ⟨other, signature⟩)).toBytes =
                .ok octets ∧
              Transaction.ofBytes registry octets =
                .ok (tx.withCredential (scheme.credential projection ⟨other, signature⟩))) := by
  cases (Registry.stock_eq_tables crypto projection).symm.trans built
  rcases (Registry.of_bytes_stock_eq_ok_iff projection).mp decoded with ⟨-, stock⟩
  rcases stock.credential credential signed with ⟨scheme, ⟨signer, signature⟩, rfl, parsed⟩
  have verifies :
      (scheme.credential projection ⟨signer, signature⟩).verify tx.toDraft = .ok () := by
    rw [Transaction.verify, signed] at verified
    exact verified
  rw [scheme.verify_eq] at verifies
  rcases Outcome.bind_eq_ok_iff.1 verifies with ⟨digest, hashed, counted⟩
  have recovered : signature.recover crypto digest = .ok signer :=
    SignedBy.verify_eq_ok_iff.1 counted
  refine ⟨scheme, digest, signer, signature, Address.ofKey crypto scheme.typeId signer,
    scheme.type_id_eq projection _, scheme.payload_eq projection _, parsed, hashed, recovered,
    ?_, ?_, Address.octets_of_key scheme.typeId signer, ?_, ?_⟩
  · rw [Transaction.actor, signed, Option.map_some, scheme.actor_eq]
  · rw [Transaction.sponsor, signed, Option.map_some, scheme.sponsor_eq]
  · rw [recovered, Address.ofKey, Account.of_address_to_address]
    rfl
  · intro other different
    constructor
    -- The draft is the same, so the hash is, and so is the key that the signature gives back.
    · have refused : SignedBy.verify ⟨other, signature⟩ digest = .error .signerMismatch := by
        rw [SignedBy.verify_of_recovered recovered, if_neg (Ne.symm different)]
      change (scheme.credential projection ⟨other, signature⟩).verify tx.toDraft = _
      rw [scheme.verify_of_signing_hash projection hashed, refused]
    · intro otherParsed
      exact stock.with_credential ⟨scheme, _, rfl, otherParsed⟩

/-! ## A signed transfer -/

def generatorKey : Crypto.standard.PublicKey := Secp256k1.PublicKey.ofGenerator

/-- A signature of the transfer below, by the secret key one. -/
def generatorSignature : Signature :=
  Signature.ofParts (Secp256k1.join
    0x45990f08499f001e126a9c382da7586c74c6b84a69e053ee5cbe9a1119e3d291
    0x29ee153cf3d9e975697662dda0d6716b3900f0225e9962b16e2b715ee43f575d) 1

def generatorTransfer : Transaction where
  header := ⟨1700000000000, ⟨Octets.ofNat 32 5⟩, 10⟩
  actions := [Transfer.toAction ⟨⟨Octets.zero 33⟩, 7⟩]
  credential := some (RawScheme.credential ⟨generatorKey, generatorSignature⟩)

theorem generator_key_parses :
    Crypto.standard.parseKey (StockScheme.raw.storedKey Crypto.standard generatorKey) =
      .ok generatorKey :=
  StockScheme.raw.parse_key_of_stored generatorKey.parse_uncompressed

theorem generator_hash :
    RawScheme.signingHash Crypto.standard generatorTransfer.toDraft =
      .ok Secp256k1.sampleDigest := by
  decide +kernel

theorem generator_recovered :
    generatorSignature.recover Crypto.standard Secp256k1.sampleDigest = .ok generatorKey :=
  Signature.recover_of_parts Secp256k1.standard_recovers Secp256k1.standard_verifies

theorem generator_transfer_is_stock :
    Registry.IsStockTransaction {} Crypto.standard generatorTransfer := by
  refine ⟨by decide, ?_, ?_⟩
  · intro action member
    exact ⟨_, List.mem_singleton.mp member⟩
  · intro credential member
    cases member
    exact ⟨.raw, _, rfl, generator_key_parses⟩

/-- The transfer is read and verifies, its actor is the generator's address, and no other key counts
for its signature. -/
theorem generator_is_the_actor :
    ∃ (bytes : List UInt8) (digest : Digest) (actor : Address),
      Transaction.ofBytes (Registry.stockTables Crypto.standard {}) bytes =
        .ok generatorTransfer ∧
      generatorTransfer.verify = .ok () ∧
      RawScheme.signingHash Crypto.standard generatorTransfer.toDraft = .ok digest ∧
      generatorSignature.recover Crypto.standard digest = .ok generatorKey ∧
      generatorTransfer.actor = some actor ∧
      Account.ofAddress actor RawScheme.typeId =
        .ok (Account.ofKey Crypto.standard generatorKey) ∧
      ∀ other : Crypto.standard.PublicKey, other ≠ generatorKey →
        (generatorTransfer.withCredential
          (RawScheme.credential ⟨other, generatorSignature⟩)).verify = .error .signerMismatch := by
  have decoded := (Registry.of_bytes_stock_eq_ok_iff {}).mpr ⟨rfl, generator_transfer_is_stock⟩
  have verified : generatorTransfer.verify = .ok () := by
    have signed : generatorTransfer.credential =
        some (StockScheme.raw.credential {} ⟨generatorKey, generatorSignature⟩) := rfl
    rw [Transaction.verify_of_credential signed,
      StockScheme.raw.verify_of_signing_hash {} generator_hash]
    exact SignedBy.verify_eq_ok_iff.2 generator_recovered
  obtain ⟨scheme, digest, signer, signature, actor, sameId, payload, parsed, hashed, recovered,
    named, -, octets, account, others⟩ :=
    actor_is_recovered_signer Crypto.standard {} _ _ generatorTransfer _
      (Registry.stock_eq_tables Crypto.standard {}) decoded rfl verified
  have sent : StockScheme.raw.storedKey Crypto.standard generatorKey ++ generatorSignature.toList =
      scheme.storedKey Crypto.standard signer ++ signature.toList :=
    (StockScheme.raw.payload_eq {} ⟨generatorKey, generatorSignature⟩).symm.trans payload
  have same : StockScheme.raw = scheme ∧
      SignedBy.mk generatorKey generatorSignature = ⟨signer, signature⟩ :=
    StockScheme.eq_of_wire_eq sameId sent generator_key_parses parsed
  rcases same with ⟨rfl, same⟩
  cases same
  rw [recovered] at account
  refine ⟨_, digest, actor, decoded, verified, hashed, recovered, named, account, ?_⟩
  intro other different
  exact (others other different).1

end SignedTx
