import SignedTx.Proofs.Ledger.Decoding
import SignedTx.Signing.Stock

/-!
# What the stock registry decodes

The stock registry is computed once as a table of three decoders. A stock action is a transfer; a
stock credential is one of the two schemes over a key and a signature whose serialized forms are the
payload. Reading a payload back needs one fact of the signature library, that the serialized key
parses; nothing is claimed here about signatures that count.
-/

set_option autoImplicit false

namespace SignedTx

open Wire Decode

theorem Crypto.serialized_of_parse_key {crypto : Crypto} {bytes : List UInt8}
    {key : crypto.PublicKey} (parsed : crypto.parseKey bytes = .ok key) :
    (if bytes.length = 33 then (crypto.ecdsa.compressed key).toList
      else (crypto.ecdsa.uncompressed key).toList) = bytes := by
  unfold Crypto.parseKey at parsed
  cases found : crypto.ecdsa.parse? bytes with
  | none => simp [found] at parsed
  | some other =>
      simp only [found] at parsed
      obtain ⟨canonical, same⟩ := Outcome.passage_eq_ok_iff.1 parsed
      cases same
      exact canonical

theorem Crypto.parse_key_of_canonical {crypto : Crypto} {bytes : List UInt8}
    {key : crypto.PublicKey} (parsed : crypto.ecdsa.parse? bytes = some key)
    (canonical : (if bytes.length = 33 then (crypto.ecdsa.compressed key).toList
      else (crypto.ecdsa.uncompressed key).toList) = bytes) :
    crypto.parseKey bytes = .ok key := by
  simp only [Crypto.parseKey, parsed]
  rw [if_pos canonical]

/-! ## Keys and signatures -/

variable {crypto : Crypto}

theorem SignedBy.decode_yields (length : Nat) :
    (SignedBy.decode crypto length).Yields fun signed bytes =>
      ∃ key : Octets length, crypto.parseKey key.toList = .ok signed.signer ∧
        bytes = key.toList ++ signed.signature.toList := by
  apply yields_bind (yields_octets length)
  intro key _
  apply yields_bind (yields_octets 65)
  intro signature _
  refine yields_check (Yields.when_clean ?_)
  have parses : (ofExcept (crypto.parseKey key.toList)).Yields fun signer bytes =>
      bytes = [] ∧ crypto.parseKey key.toList = .ok signer :=
    yields_of_except fun signer parsed => ⟨rfl, parsed⟩
  apply yields_bind_pure parses
  intro signer _ signerParsed signatureEq keyEq
  rcases signerParsed with ⟨restEq, parsed⟩
  subst restEq signatureEq keyEq
  exact ⟨key, parsed, by simp⟩

theorem SignedBy.decode_accepts {length : Nat} {key : Octets length} {signed : SignedBy crypto}
    (parsed : crypto.parseKey key.toList = .ok signed.signer) :
    (SignedBy.decode crypto length).Accepts (key.toList ++ signed.signature.toList)
      (· = signed) := by
  apply accepts_bind (accepts_octets key)
  intro found same
  subst same
  rw [← List.append_nil signed.signature.toList]
  apply accepts_bind (accepts_octets signed.signature)
  intro found same
  subst same
  apply accepts_check
  rw [parsed]
  exact accepts_bind_pure (accepts_of_except rfl) fun signer same => by rw [← same]

/-! ## The two schemes -/

theorem RawScheme.signing_hash_eq_ok {draft : Draft} {digest : Digest} :
    RawScheme.signingHash crypto draft = .ok digest ↔
      ∃ bytes, draft.digest = .ok bytes ∧ crypto.keccak (personalPreimage bytes) = digest :=
  Outcome.map_eq_ok_iff

/-- The stock schemes, which store a key in full or compressed. -/
inductive StockScheme where
  | raw
  | typed

namespace StockScheme

def typeId : StockScheme → UInt8
  | raw => RawScheme.typeId
  | typed => TypedScheme.typeId

def keyLength : StockScheme → Nat
  | raw => 65
  | typed => 33

def storedKey (crypto : Crypto) (key : crypto.PublicKey) : StockScheme → List UInt8
  | raw => (crypto.ecdsa.uncompressed key).toList
  | typed => (crypto.ecdsa.compressed key).toList

def credential (projection : Projection) (signed : SignedBy crypto) : StockScheme → Credential
  | raw => RawScheme.credential signed
  | typed => TypedScheme.credential projection signed

/-- The hash that a scheme signs for a draft. -/
def signingHash (crypto : Crypto) (projection : Projection) (draft : Draft) :
    StockScheme → Except TxError Digest
  | raw => RawScheme.signingHash crypto draft
  | typed => projection.signingHash crypto.keccak draft

variable (projection : Projection) (scheme : StockScheme)

@[simp] theorem length_stored_key (key : crypto.PublicKey) :
    (scheme.storedKey crypto key).length = scheme.keyLength := by
  cases scheme with
  | raw => exact (crypto.ecdsa.uncompressed key).length_toList
  | typed => exact (crypto.ecdsa.compressed key).length_toList

theorem exists_key_octets (key : crypto.PublicKey) :
    ∃ octets : Octets scheme.keyLength, octets.toList = scheme.storedKey crypto key :=
  ⟨⟨_, scheme.length_stored_key key⟩, rfl⟩

theorem type_id_eq (signed : SignedBy crypto) :
    (scheme.credential projection signed).typeId = scheme.typeId := by
  cases scheme <;> rfl

theorem payload_eq (signed : SignedBy crypto) :
    (scheme.credential projection signed).payload =
      scheme.storedKey crypto signed.signer ++ signed.signature.toList := by
  cases scheme with
  | raw => simp [credential, storedKey, RawScheme.credential, Credential.payload, Field.encode]
  | typed => simp [credential, storedKey, TypedScheme.credential, Credential.payload, Field.encode]

theorem credential_truthful (signed : SignedBy crypto) :
    WirePart.Truthful (scheme.credential projection signed) := by
  change (scheme.credential projection signed).size =
    (scheme.credential projection signed).payload.length
  rw [payload_eq, List.length_append, length_stored_key, Octets.length_toList]
  cases scheme <;> rfl

/-- A key that parses is stored as it was read. -/
theorem stored_key_of_parse_key {bytes : Octets scheme.keyLength} {key : crypto.PublicKey}
    (parsed : crypto.parseKey bytes.toList = .ok key) :
    scheme.storedKey crypto key = bytes.toList := by
  have canonical := Crypto.serialized_of_parse_key parsed
  rw [Octets.length_toList] at canonical
  cases scheme with
  | raw => exact canonical
  | typed => exact canonical

theorem parse_key_of_stored {key : crypto.PublicKey}
    (parsed : crypto.ecdsa.parse? (scheme.storedKey crypto key) = some key) :
    crypto.parseKey (scheme.storedKey crypto key) = .ok key := by
  apply Crypto.parse_key_of_canonical parsed
  rw [length_stored_key]
  cases scheme <;> rfl

/-- What is read is what is stored, and the stored key parses. -/
theorem decode_yields : (SignedBy.decode crypto scheme.keyLength).Yields fun signed bytes =>
    bytes = (scheme.credential projection signed).payload ∧
      crypto.parseKey (scheme.storedKey crypto signed.signer) = .ok signed.signer := by
  apply (SignedBy.decode_yields scheme.keyLength).weaken
  intro signed found parts
  rcases parts with ⟨key, parsed, rfl⟩
  have stored := scheme.stored_key_of_parse_key parsed
  constructor
  · rw [payload_eq, stored]
  · rw [stored, parsed]

theorem decode_accepts {signed : SignedBy crypto}
    (parsed : crypto.parseKey (scheme.storedKey crypto signed.signer) = .ok signed.signer) :
    (SignedBy.decode crypto scheme.keyLength).Accepts
      (scheme.credential projection signed).payload (· = signed) := by
  obtain ⟨key, stored⟩ := scheme.exists_key_octets signed.signer
  rw [payload_eq, ← stored]
  apply SignedBy.decode_accepts
  rwa [stored]

/-- Scheme, key and signature are known from what is sent. -/
theorem eq_of_wire_eq {left right : StockScheme} {signed other : SignedBy crypto}
    (ids : left.typeId = right.typeId)
    (payloads : left.storedKey crypto signed.signer ++ signed.signature.toList =
      right.storedKey crypto other.signer ++ other.signature.toList)
    (parsed : crypto.parseKey (left.storedKey crypto signed.signer) = .ok signed.signer)
    (otherParsed : crypto.parseKey (right.storedKey crypto other.signer) = .ok other.signer) :
    left = right ∧ signed = other := by
  have scheme : left = right := by
    cases left <;> cases right <;> first | rfl | exact absurd ids (by decide)
  subst scheme
  rcases List.append_inj payloads (by simp) with ⟨keys, signatures⟩
  rw [keys, otherParsed] at parsed
  refine ⟨rfl, ?_⟩
  rcases signed with ⟨signer, signature⟩
  rcases other with ⟨otherSigner, otherSignature⟩
  cases parsed
  cases Octets.ext signatures
  rfl

end StockScheme

/-! ## The table -/

namespace Registry

/-- The stock registry, written out. -/
def stockTables (crypto : Crypto) (projection : Projection) : Registry where
  actions := {
    family := .action
    decoders := [(Transfer.typeId, do return (← Transfer.decode).toAction)] }
  credentials := {
    family := .credential
    decoders := [
      (RawScheme.typeId, do return RawScheme.credential (← RawScheme.decode crypto)),
      (TypedScheme.typeId, do
        return TypedScheme.credential projection (← TypedScheme.decode crypto))] }

theorem stock_eq_tables (crypto : Crypto) (projection : Projection) :
    stock crypto projection = .ok (stockTables crypto projection) :=
  rfl

variable (projection : Projection)

theorem find_stock_action {typeId : UInt8} {decoder : Decode Action}
    (found : (stockTables crypto projection).actions.find? typeId = some decoder) :
    typeId = Transfer.typeId ∧ decoder = do return (← Transfer.decode).toAction := by
  simp only [DecoderTable.find?, stockTables, List.lookup_cons, List.lookup_nil] at found
  split at found
  · rename_i same
    exact ⟨eq_of_beq same, (Option.some.inj found).symm⟩
  · cases found

/-- The decoder of a scheme. -/
def decodeStock (crypto : Crypto) (scheme : StockScheme) : Decode Credential := do
  return scheme.credential projection (← SignedBy.decode crypto scheme.keyLength)

theorem find_stock_scheme (scheme : StockScheme) :
    (stockTables crypto projection).credentials.find? scheme.typeId =
      some (decodeStock projection crypto scheme) := by
  cases scheme <;> rfl

theorem find_stock_credential {typeId : UInt8} {decoder : Decode Credential}
    (found : (stockTables crypto projection).credentials.find? typeId = some decoder) :
    ∃ scheme : StockScheme, typeId = scheme.typeId ∧
      decoder = decodeStock projection crypto scheme := by
  simp only [DecoderTable.find?, stockTables, List.lookup_cons, List.lookup_nil] at found
  split at found
  · rename_i same
    exact ⟨.raw, eq_of_beq same, (Option.some.inj found).symm⟩
  · split at found
    · rename_i same
      exact ⟨.typed, eq_of_beq same, (Option.some.inj found).symm⟩
    · cases found

/-- Every stock action is a transfer, read from its payload. -/
theorem stock_action_yields {typeId : UInt8} {decoder : Decode Action}
    (found : (stockTables crypto projection).actions.find? typeId = some decoder) :
    decoder.Yields fun action bytes => ∃ transfer : Transfer, action = transfer.toAction ∧
      typeId = Transfer.typeId ∧ bytes = action.payload := by
  rcases find_stock_action projection found with ⟨sameId, rfl⟩
  apply yields_bind_pure Transfer.decode_yields
  intro transfer found same
  subst same
  exact ⟨transfer, rfl, sameId, rfl⟩

/-- A credential of one of the two schemes whose stored key parses. -/
def IsStock (crypto : Crypto) (projection : Projection) (credential : Credential) : Prop :=
  ∃ (scheme : StockScheme) (signed : SignedBy crypto),
    credential = scheme.credential projection signed ∧
      crypto.parseKey (scheme.storedKey crypto signed.signer) = .ok signed.signer

theorem stock_credential_yields {typeId : UInt8} {decoder : Decode Credential}
    (found : (stockTables crypto projection).credentials.find? typeId = some decoder) :
    decoder.Yields fun credential bytes => IsStock crypto projection credential ∧
      typeId = credential.typeId ∧ bytes = credential.payload := by
  rcases find_stock_credential projection found with ⟨scheme, rfl, rfl⟩
  apply yields_bind_pure (scheme.decode_yields projection)
  intro signed found parts
  rcases parts with ⟨rfl, parsed⟩
  exact ⟨⟨scheme, signed, rfl, parsed⟩, (scheme.type_id_eq projection signed).symm, rfl⟩

/-- What any octets decode to through the stock registry. -/
theorem decode_from_stock_yields :
    (Transaction.decodeFrom (stockTables crypto projection)).Yields fun tx bytes =>
      bytes = tx.layout ∧ tx.actions.length ≤ maxActions ∧
        (∀ action ∈ tx.actions, ∃ transfer : Transfer, action = transfer.toAction) ∧
        ∀ credential ∈ tx.credential, IsStock crypto projection credential := by
  apply Transaction.decode_from_yields
  · refine (Transaction.decode_tagged_yields fun _ _ found =>
      (stock_action_yields projection found).when_clean).weaken ?_
    intro action found parts
    rcases parts with ⟨typeId, payload, rfl, transfer, rfl, rfl, rfl⟩
    exact ⟨rfl, transfer, rfl⟩
  · refine (Transaction.decode_tagged_yields fun _ _ found =>
      (stock_credential_yields projection found).when_clean).weaken ?_
    intro credential found parts
    rcases parts with ⟨typeId, payload, rfl, isStock, rfl, rfl⟩
    exact ⟨rfl, isStock⟩

/-- The transactions of the stock registry: at most 255 transfers, and a credential of one of the
two schemes or none. -/
structure IsStockTransaction (crypto : Crypto) (tx : Transaction) : Prop where
  count : tx.actions.length ≤ maxActions
  transfers : ∀ action ∈ tx.actions, ∃ transfer : Transfer, action = transfer.toAction
  credential : ∀ credential ∈ tx.credential, IsStock crypto projection credential

theorem IsStockTransaction.truthful {tx : Transaction}
    (stock : IsStockTransaction projection crypto tx) : tx.Truthful := by
  constructor
  · intro action member
    rcases stock.transfers action member with ⟨transfer, rfl⟩
    exact transfer.action_truthful
  · intro credential member
    rcases stock.credential credential member with ⟨scheme, signed, rfl, -⟩
    exact scheme.credential_truthful projection signed

theorem stock_decodes_transfer (transfer : Transfer) :
    (Transaction.decodeTagged (stockTables crypto projection).actions).Accepts
      transfer.toAction.wire fun found => id found = id transfer.toAction := by
  apply Transaction.decode_tagged_accepts rfl
  apply accepts_bind_pure (Transfer.decode_accepts transfer)
  intro found same
  subst same
  rfl

theorem stock_decodes_signed {credential : Credential}
    (isStock : IsStock crypto projection credential) :
    (Transaction.decodeTagged (stockTables crypto projection).credentials).Accepts
      credential.wire fun found => id found = id credential := by
  rcases isStock with ⟨scheme, signed, rfl, parsed⟩
  rw [Credential.wire, scheme.type_id_eq]
  apply Transaction.decode_tagged_accepts (find_stock_scheme projection scheme)
  apply accepts_bind_pure (scheme.decode_accepts projection parsed)
  intro found same
  subst same
  rfl

section Accepts

variable {projection : Projection} {tx : Transaction}

theorem IsStockTransaction.decodes_action (stock : IsStockTransaction projection crypto tx)
    {action : Action} (member : action ∈ tx.actions) :
    (Transaction.decodeTagged (stockTables crypto projection).actions).Accepts action.wire
      fun found => id found = id action := by
  rcases stock.transfers action member with ⟨transfer, rfl⟩
  exact stock_decodes_transfer projection transfer

theorem IsStockTransaction.decode_accepts (stock : IsStockTransaction projection crypto tx) :
    (Transaction.decodeFrom (stockTables crypto projection)).Accepts tx.layout (· = tx) := by
  apply (Transaction.decode_from_accepts stock.count (fun _ => stock.decodes_action)
    fun credential member =>
      stock_decodes_signed projection (stock.credential credential member)).weaken
  intro found parts
  rcases parts with ⟨headers, actionsRelated, credentialRelated⟩
  have actions := Transaction.map_eq_of_related actionsRelated
  have credentials := Transaction.optional_eq_of_related credentialRelated
  rw [List.map_id, List.map_id] at actions
  rw [Option.map_id] at credentials
  rcases found with ⟨⟨header, parts⟩, signed⟩
  rcases tx with ⟨⟨txHeader, txParts⟩, txSigned⟩
  cases headers
  cases actions
  cases credentials
  rfl

end Accepts

/-- The stock registry decodes exactly the layouts of its transactions. -/
theorem of_bytes_stock_eq_ok_iff {bytes : List UInt8} {tx : Transaction} :
    Transaction.ofBytes (stockTables crypto projection) bytes = .ok tx ↔
      bytes = tx.layout ∧ IsStockTransaction projection crypto tx := by
  constructor
  · intro decoded
    rcases Transaction.of_bytes_eq_ok_iff.1 decoded with ⟨after, read, clean, finished⟩
    obtain ⟨front, consumed, layoutEq, count, transfers, credential⟩ :=
      decode_from_stock_yields projection _ tx after read clean
    have whole : bytes = front := by simpa [finished, Reader.new] using consumed.rest_eq
    exact ⟨whole.trans layoutEq, count, transfers, credential⟩
  · intro parts
    rcases parts with ⟨rfl, stock⟩
    have consumed := Reader.consumes_new tx.layout []
    rw [List.append_nil] at consumed
    rcases stock.decode_accepts _ _ consumed with ⟨found, read, same⟩
    subst same
    exact Transaction.of_bytes_eq_ok_iff.2 ⟨_, read, rfl, rfl⟩

end Registry

/-- A draft that is nothing but transfers, as many as can be sent. -/
structure Draft.Carries (draft : Draft) (transfers : List Transfer) : Prop where
  actions : draft.actions = transfers.map Transfer.toAction
  count : transfers.length ≤ maxActions

namespace Draft.Carries

variable {projection : Projection} {draft : Draft} {transfers : List Transfer}

theorem count_le (made : draft.Carries transfers) : draft.actions.length ≤ maxActions := by
  rw [made.actions, List.length_map]
  exact made.count

theorem is_transfer (made : draft.Carries transfers) {action : Action}
    (member : action ∈ draft.actions) : ∃ transfer : Transfer, action = transfer.toAction := by
  rw [made.actions] at member
  rcases List.mem_map.mp member with ⟨transfer, -, same⟩
  exact ⟨transfer, same.symm⟩

theorem digest_eq (made : draft.Carries transfers) : draft.digest = .ok draft.layout := by
  apply Draft.digest_eq_layout made.count_le
  intro action member
  rcases made.is_transfer member with ⟨transfer, rfl⟩
  exact transfer.action_truthful

theorem unsigned_is_stock (made : draft.Carries transfers) :
    Registry.IsStockTransaction projection crypto ⟨draft, none⟩ :=
  ⟨made.count_le, fun _ => made.is_transfer, fun _ member => nomatch member⟩

end Draft.Carries

end SignedTx
