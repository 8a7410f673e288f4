import SignedTx.Proofs.Node.Startup
import SignedTx.Proofs.Signing.Signer

/-!
# What a failed verification blames

A node whose settings passed the check blames a failed verification on the transaction: on its
signature, or, under the typed scheme, first on the number of its actions and then on its time. It
never blames the settings, the schema of its own documents or a limit, whatever octets it is sent.
The signature library is open, and which signatures fail is not claimed.
-/

set_option autoImplicit false

namespace SignedTx

variable {crypto : Crypto}

/-- Success, or an error that distrusts the signer. -/
def SignatureDecides (outcome : Except TxError Unit) : Prop :=
  outcome = .ok () ∨ ∃ e, outcome = .error e ∧ e.kind = .signatureInvalid

theorem SignatureDecides.kind_eq {outcome : Except TxError Unit} {e : TxError}
    (decides : SignatureDecides outcome) (refused : outcome = .error e) :
    e.kind = .signatureInvalid := by
  rcases decides with success | ⟨found, failed, kind⟩
  · rw [success] at refused
    cases refused
  · rw [failed] at refused
    cases refused
    exact kind

theorem Signature.kind_of_recover {signature : Signature} {digest : Digest} {e : TxError}
    (refused : signature.recover crypto digest = .error e) : e.kind = .signatureInvalid := by
  unfold recover at refused
  cases numbered : signature.recoveryId? with
  | none =>
      simp only [numbered] at refused
      cases refused
      rfl
  | some id =>
      cases recovered : crypto.ecdsa.recover? digest signature.compact id with
      | none =>
          simp only [numbered, recovered] at refused
          cases refused
          rfl
      | some key =>
          simp only [numbered, recovered] at refused
          rcases Outcome.passage_eq_error_iff.1 refused with ⟨-, rfl⟩ | ⟨-, passed⟩
          · rfl
          · cases passed

theorem SignedBy.signature_decides (signed : SignedBy crypto) (digest : Digest) :
    SignatureDecides (signed.verify digest) := by
  cases recovered : signed.signature.recover crypto digest with
  | ok key =>
      rw [SignedBy.verify_of_recovered recovered]
      by_cases same : key = signed.signer
      · rw [if_pos same]
        exact .inl rfl
      · rw [if_neg same]
        exact .inr ⟨.signerMismatch, rfl, rfl⟩
  | error e =>
      refine .inr ⟨e, ?_, Signature.kind_of_recover recovered⟩
      rw [SignedBy.verify, recovered]
      rfl

/-! ## Where the hash cannot be made -/

namespace Projection

variable {projection : Projection} {draft : Draft}

theorem document_of_other_count (other : draft.actions.length ≠ 1) :
    projection.document draft = .error (.unsupportedActionCount draft.actions.length) := by
  rcases draft with ⟨header, actions⟩
  match actions, other with
  | [], _ => rfl
  | _ :: _ :: _, _ => rfl

theorem document_of_other_time {action : Action} (one : draft.actions = [action])
    (outside : Instant.isInRange (draft.header.timestamp.toInt.fdiv 1000) = false) :
    ∃ reason, projection.document draft = .error (.invalidField reason) := by
  have no_text : Instant.toText? (draft.header.timestamp.toInt.fdiv 1000) = none := by
    rw [Instant.toText?, outside]
    rfl
  have no_second : ∃ reason,
      Projection.expiration draft.header.timestamp = .error (.invalidField reason) := by
    rw [Projection.expiration, no_text]
    exact ⟨_, rfl⟩
  rcases no_second with ⟨reason, no_second⟩
  refine ⟨reason, ?_⟩
  simp only [Projection.document, one, no_second]
  rfl

/-- What keeps the document from being made is what verification says. -/
theorem verify_of_no_document {tx : Transaction} {signed : SignedBy crypto} {e : TxError}
    (held : tx.credential = some (StockScheme.typed.credential projection signed))
    (refused : projection.document tx.toDraft = .error e) : tx.verify = .error e := by
  have hashed : StockScheme.typed.signingHash crypto projection tx.toDraft = .error e := by
    change projection.signingHash crypto.keccak tx.toDraft = _
    rw [signingHash, refused]
    rfl
  rw [Transaction.verify_of_credential held, StockScheme.typed.verify_eq, hashed]
  rfl

end Projection

namespace Registry.IsStockTransaction

variable {projection : Projection} {tx : Transaction} {signed : SignedBy crypto}

/-- The digest can always be written, so the raw scheme leaves only the signature. -/
theorem raw_signature_decides (stock : IsStockTransaction projection crypto tx)
    (held : tx.credential = some (StockScheme.raw.credential projection signed)) :
    SignatureDecides tx.verify := by
  have digest := Draft.digest_eq_layout stock.count (stock.truthful projection).actions
  have hashed : StockScheme.raw.signingHash crypto projection tx.toDraft =
      .ok (crypto.keccak (personalPreimage tx.toDraft.layout)) :=
    RawScheme.signing_hash_eq_ok.2 ⟨_, digest, rfl⟩
  rw [Transaction.verify_of_credential held, StockScheme.raw.verify_of_signing_hash _ hashed]
  exact signed.signature_decides _

/-- One transfer in the calendar has a document under a usable human-readable part, and a document
of a transfer has a hash. -/
theorem typed_signature_decides (stock : IsStockTransaction projection crypto tx)
    (held : tx.credential = some (StockScheme.typed.credential projection signed))
    (usable : ∃ seen, Bech32.checkHrp projection.presentation.hrp = .ok seen)
    (one : tx.actions.length = 1)
    (inside : Instant.isInRange (tx.header.timestamp.toInt.fdiv 1000) = true) :
    SignatureDecides tx.verify := by
  obtain ⟨action, actions⟩ := List.length_eq_one_iff.mp one
  obtain ⟨transfer, rfl⟩ := stock.transfers action (by simp [actions])
  have suits : StockScheme.typed.Suits projection tx.toDraft.header [transfer] :=
    ⟨rfl, inside, usable⟩
  obtain ⟨digest, hashed⟩ : ∃ digest,
      StockScheme.typed.signingHash crypto projection tx.toDraft = .ok digest :=
    suits.has_signing_hash actions
  rw [Transaction.verify_of_credential held, StockScheme.typed.verify_of_signing_hash _ hashed]
  exact signed.signature_decides _

end Registry.IsStockTransaction

/-! ## What is blamed -/

/-- What verification blames under the typed scheme: the number of actions if it is not one, else
the time if it is not in the calendar, else the signature or nothing. -/
structure BlamesInOrder (tx : Transaction) : Prop where
  count : ∀ count, tx.verify = .error (.unsupportedActionCount count) ↔
    tx.actions.length = count ∧ count ≠ 1
  time : tx.actions.length = 1 → ((∃ reason, tx.verify = .error (.invalidField reason)) ↔
    Instant.isInRange (tx.header.timestamp.toInt.fdiv 1000) = false)
  signature : tx.actions.length = 1 →
    Instant.isInRange (tx.header.timestamp.toInt.fdiv 1000) = true → SignatureDecides tx.verify

/-- Each cause leaves an error of its own, so the error tells which it was. -/
theorem blames_in_order_of_causes {tx : Transaction}
    (count : tx.actions.length ≠ 1 →
      tx.verify = .error (.unsupportedActionCount tx.actions.length))
    (time : tx.actions.length = 1 →
      Instant.isInRange (tx.header.timestamp.toInt.fdiv 1000) = false →
      ∃ reason, tx.verify = .error (.invalidField reason))
    (signature : tx.actions.length = 1 →
      Instant.isInRange (tx.header.timestamp.toInt.fdiv 1000) = true →
      SignatureDecides tx.verify) : BlamesInOrder tx := by
  refine ⟨?_, ?_, signature⟩
  · intro number
    constructor
    · intro refused
      by_cases one : tx.actions.length = 1
      · cases inside : Instant.isInRange (tx.header.timestamp.toInt.fdiv 1000) with
        | false =>
            rcases time one inside with ⟨reason, other⟩
            rw [refused] at other
            cases other
        | true => cases (signature one inside).kind_eq refused
      · have other := count one
        rw [refused] at other
        cases other
        exact ⟨rfl, one⟩
    · rintro ⟨rfl, other⟩
      exact count other
  · intro one
    constructor
    · rintro ⟨reason, refused⟩
      cases inside : Instant.isInRange (tx.header.timestamp.toInt.fdiv 1000) with
      | false => rfl
      | true => cases (signature one inside).kind_eq refused
    · exact time one

/-- Whichever cause it is, the kind of the error is that of the input or of the signature. -/
theorem BlamesInOrder.kind_of_error {tx : Transaction} {e : TxError} (blames : BlamesInOrder tx)
    (refused : tx.verify = .error e) : e.kind = .malformedInput ∨ e.kind = .signatureInvalid := by
  by_cases one : tx.actions.length = 1
  · cases inside : Instant.isInRange (tx.header.timestamp.toInt.fdiv 1000) with
    | false =>
        rcases (blames.time one).mpr inside with ⟨reason, same⟩
        rw [refused] at same
        cases same
        exact .inl rfl
    | true => exact .inr ((blames.signature one inside).kind_eq refused)
  · have same := (blames.count tx.actions.length).mpr ⟨rfl, one⟩
    rw [refused] at same
    cases same
    exact .inl rfl

/-- An error of the input or of the signature is none of the settings, of a limit or of a schema. -/
theorem TxError.spared_of_kind {e : TxError}
    (kind : e.kind = .malformedInput ∨ e.kind = .signatureInvalid) :
    e.kind ≠ .configuration ∧ e.kind ≠ .capacityExceeded ∧ ∀ cause, e ≠ .typedData cause := by
  refine ⟨?_, ?_, ?_⟩
  · rcases kind with same | same <;> simp [same]
  · rcases kind with same | same <;> simp [same]
  · rintro cause rfl
    rcases kind with same | same <;> cases same

theorem Registry.IsStockTransaction.blames_in_order {projection : Projection} {tx : Transaction}
    {signed : SignedBy crypto} (stock : IsStockTransaction projection crypto tx)
    (held : tx.credential = some (StockScheme.typed.credential projection signed))
    (usable : ∃ seen, Bech32.checkHrp projection.presentation.hrp = .ok seen) :
    BlamesInOrder tx := by
  apply blames_in_order_of_causes
  · intro other
    exact Projection.verify_of_no_document held (Projection.document_of_other_count other)
  · intro one outside
    obtain ⟨action, actions⟩ := List.length_eq_one_iff.mp one
    obtain ⟨reason, refused⟩ : ∃ reason,
        projection.document tx.toDraft = .error (.invalidField reason) :=
      Projection.document_of_other_time actions outside
    exact ⟨reason, Projection.verify_of_no_document held refused⟩
  · intro one inside
    exact stock.typed_signature_decides held usable one inside

/-- Settings that pass the check start a node. Whatever octets it is sent, a credential of type 3
verifies or its signature is blamed, and one of type 4 is blamed in order. There are no other
credentials, and never are the settings, a limit or a schema at fault. -/
theorem verification_blames_the_transaction (crypto : Crypto) (config : Node.Config)
    (accepted : config.check crypto.sha = .ok ()) :
    ∃ runtime, config.start crypto = .ok runtime ∧
      ∀ bytes tx credential, Transaction.ofBytes runtime.registry bytes = .ok tx →
        tx.credential = some credential →
        (credential.typeId = 3 ∨ credential.typeId = 4) ∧
        (credential.typeId = 3 → SignatureDecides tx.verify) ∧
        (credential.typeId = 4 → BlamesInOrder tx) ∧
        ∀ e, tx.verify = .error e →
          e.kind ≠ .configuration ∧ e.kind ≠ .capacityExceeded ∧ ∀ cause, e ≠ .typedData cause := by
  obtain ⟨runtime, started⟩ := Node.Config.start_of_check accepted
  obtain ⟨presentation, registry⟩ := Node.Config.runtime_of_start started
  have faultless := (Node.Config.faults_eq_nil_iff.1 (Node.Config.check_eq_ok_iff.1 accepted)).2.1
  have usable : ∃ seen, Bech32.checkHrp runtime.projection.presentation.hrp = .ok seen := by
    rw [presentation]
    exact Node.check_hrp_of_faultless faultless
  refine ⟨runtime, started, ?_⟩
  intro bytes tx credential decoded held
  rw [registry] at decoded
  rcases (Registry.of_bytes_stock_eq_ok_iff _).mp decoded with ⟨-, stock⟩
  rcases stock.credential credential held with ⟨scheme, signed, rfl, -⟩
  cases scheme with
  | raw =>
      have decides := stock.raw_signature_decides held
      refine ⟨.inl rfl, fun _ => decides, nofun, ?_⟩
      intro e refused
      exact TxError.spared_of_kind (.inr (decides.kind_eq refused))
  | typed =>
      have blames := stock.blames_in_order held usable
      refine ⟨.inr rfl, nofun, fun _ => blames, ?_⟩
      intro e refused
      exact TxError.spared_of_kind (blames.kind_of_error refused)

/-! ## A node with default settings -/

def plainConfig : Node.Config where
  chain := { chainId := "2c7iUW3kCDwRA9ZFd5bjZZc8iDy68uAsFSBahjqSZGttiTDSNH" }

theorem plain_config_accepted : plainConfig.check Crypto.standard.sha = .ok () := by
  rw [Node.Config.check_eq_ok_iff, Node.Config.faults_eq_nil_iff]
  decide +kernel

/-- Transfers under the generator's key and a signature of zeros. -/
def unsignedTransfers (projection : Projection) (scheme : StockScheme) (timestamp : Int64)
    (count : Nat) : Transaction where
  header := ⟨timestamp, Identifier.zero, 10⟩
  actions := List.replicate count (Transfer.toAction ⟨⟨Octets.zero 33⟩, 7⟩)
  credential := some (scheme.credential projection
    (⟨generatorKey, Octets.zero 65⟩ : SignedBy Crypto.standard))

theorem generator_key_parses_in_scheme (scheme : StockScheme) :
    Crypto.standard.parseKey (scheme.storedKey Crypto.standard generatorKey) =
      .ok generatorKey := by
  apply scheme.parse_key_of_stored
  cases scheme with
  | raw => exact generatorKey.parse_uncompressed
  | typed =>
      have library : Crypto.standard.ecdsa.parse? = Secp256k1.PublicKey.parse? := rfl
      have stored : StockScheme.typed.storedKey Crypto.standard generatorKey =
          (Secp256k1.PublicKey.compressed generatorKey).toList := rfl
      rw [library, stored]
      exact Secp256k1.PublicKey.parse_compressed_generator

theorem decoded_unsigned_transfers {projection : Projection} {scheme : StockScheme}
    {timestamp : Int64} {count : Nat} (few : count ≤ 255) :
    Transaction.ofBytes (Registry.stockTables Crypto.standard projection)
        (unsignedTransfers projection scheme timestamp count).layout =
      .ok (unsignedTransfers projection scheme timestamp count) := by
  refine (Registry.of_bytes_stock_eq_ok_iff projection).mpr ⟨rfl, ?_, ?_, ?_⟩
  · rw [unsignedTransfers, List.length_replicate]
    exact few
  · intro action member
    exact ⟨_, List.eq_of_mem_replicate member⟩
  · intro credential member
    cases member
    exact ⟨scheme, _, rfl, generator_key_parses_in_scheme scheme⟩

/-- Under the typed scheme two transfers are blamed on their number, one at the end of time on its
time; in the calendar, and under the raw scheme at any time, there is only the signature. -/
theorem plain_node_blames_the_transaction :
    ∃ runtime, plainConfig.start Crypto.standard = .ok runtime ∧
      (unsignedTransfers runtime.projection .typed Int64.maxValue 2).verify =
        .error (.unsupportedActionCount 2) ∧
      (∃ reason, (unsignedTransfers runtime.projection .typed Int64.maxValue 1).verify =
        .error (.invalidField reason)) ∧
      SignatureDecides (unsignedTransfers runtime.projection .typed 0 1).verify ∧
      SignatureDecides (unsignedTransfers runtime.projection .raw Int64.maxValue 2).verify := by
  obtain ⟨runtime, started, blamed⟩ :=
    verification_blames_the_transaction Crypto.standard plainConfig plain_config_accepted
  have registry := (Node.Config.runtime_of_start started).2
  have sent : ∀ scheme timestamp count, count ≤ 255 →
      Transaction.ofBytes runtime.registry
          (unsignedTransfers runtime.projection scheme timestamp count).layout =
        .ok (unsignedTransfers runtime.projection scheme timestamp count) := by
    intro scheme timestamp count few
    rw [registry]
    exact decoded_unsigned_transfers few
  have typed : ∀ timestamp count, count ≤ 255 →
      BlamesInOrder (unsignedTransfers runtime.projection .typed timestamp count) := by
    intro timestamp count few
    exact (blamed _ _ _ (sent .typed timestamp count few) rfl).2.2.1 rfl
  have outside : Instant.isInRange ((Int64.maxValue).toInt.fdiv 1000) = false := by decide
  have inside : Instant.isInRange ((0 : Int64).toInt.fdiv 1000) = true := by decide
  refine ⟨runtime, started, ?_, ?_, ?_, ?_⟩
  · exact ((typed Int64.maxValue 2 (by decide)).count 2).mpr ⟨rfl, by decide⟩
  · exact ((typed Int64.maxValue 1 (by decide)).time rfl).mpr outside
  · exact (typed 0 1 (by decide)).signature rfl inside
  · exact (blamed _ _ _ (sent .raw Int64.maxValue 2 (by decide)) rfl).2.1 rfl

end SignedTx
