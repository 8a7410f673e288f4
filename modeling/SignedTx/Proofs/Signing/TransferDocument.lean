import SignedTx.Ledger.Transfer
import SignedTx.Proofs.TypedData.Domain
import SignedTx.Proofs.TypedData.SigningHash
import SignedTx.Signing.Projection

/-!
# The typed data of a transfer

The document of a transfer has one schema, so its type strings are known, and its signing hash is
written out in terms of the hash function. Fourteen strings are hashed for it. That the document
exists is not claimed: the address or the time may have no text.
-/

set_option autoImplicit false

namespace SignedTx

open TypedData

theorem Transfer.to_json_eq_ok {transfer : Transfer} {presentation : Presentation}
    {params : Json.Object} : transfer.toJson presentation = .ok params ↔
      ∃ recipient, transfer.recipient.toBech32 presentation.hrp = .ok recipient ∧
        params = [("to", .string recipient),
          ("value", .string (presentation.formatBalance transfer.value))] := by
  rw [toJson, Presentation.formatAddress]
  cases transfer.recipient.toBech32 presentation.hrp <;> simp [eq_comm]

namespace Projection

/-! ## The document of a transfer -/

theorem signing_hash_eq_ok {hash : HashFunction} {projection : Projection}
    {draft : Draft} {digest : Digest} : projection.signingHash hash draft = .ok digest ↔
      ∃ document preimage, projection.document draft = .ok document ∧
        document.preimage hash = .ok preimage ∧ hash preimage.toList = digest := by
  rw [signingHash]
  simp only [Outcome.bind_eq_ok_iff, Outcome.map_error_eq_ok_iff,
    Document.signing_hash_eq_ok]
  constructor
  · intro parts
    rcases parts with ⟨document, shown, preimage, found, hashed⟩
    exact ⟨document, preimage, shown, found, hashed⟩
  · intro parts
    rcases parts with ⟨document, preimage, shown, found, hashed⟩
    exact ⟨document, shown, preimage, found, hashed⟩

/-- The types of a transfer's document. -/
def transferSchema : Schema := [
  ("EIP712Domain", [
    ⟨"name", "string"⟩, ⟨"version", "string"⟩, ⟨"chainId", "uint256"⟩,
    ⟨"verifyingContract", "address"⟩]),
  ("Params", [⟨"to", "string"⟩, ⟨"value", "string"⟩]),
  ("Transaction", [
    ⟨"expiration", "string"⟩, ⟨"maxFee", "string"⟩, ⟨"action", "string"⟩, ⟨"params", "Params"⟩])]

/-- The members of a transfer with the given texts. -/
def transferParams (projection : Projection) (recipient : String) (value : UInt64) :
    Json.Object := [
  ("to", .string recipient),
  ("value", .string (projection.presentation.formatBalance value))]

/-- The document of a transfer with the given texts. -/
def transferDocument (projection : Projection) (chainId : Identifier)
    (expiration recipient : String) (maxFee value : UInt64) : Document where
  types := transferSchema
  primaryType := "Transaction"
  domain := projection.domain chainId
  message := [
    ("action", .string "Transfer"),
    ("expiration", .string expiration),
    ("maxFee", .string (projection.presentation.formatBalance maxFee)),
    ("params", .object (projection.transferParams recipient value))]

theorem expiration_eq_ok {timestamp : Int64} {text : String} :
    Projection.expiration timestamp = .ok text ↔
      Instant.toText? (timestamp.toInt.fdiv 1000) = some text := by
  rw [Projection.expiration]
  cases Instant.toText? (timestamp.toInt.fdiv 1000) <;> simp

theorem document_eq_ok_iff {projection : Projection} {draft : Draft} {transfer : Transfer}
    {document : Document} (one : draft.actions = [transfer.toAction]) :
    projection.document draft = .ok document ↔ ∃ expiration recipient,
      Instant.toText? (draft.header.timestamp.toInt.fdiv 1000) = some expiration ∧
      transfer.recipient.toBech32 projection.presentation.hrp = .ok recipient ∧
      document = projection.transferDocument draft.header.chainId expiration recipient
        draft.header.maxFee transfer.value := by
  rw [Projection.document, one]
  simp only [Outcome.bind_eq_ok_iff, expiration_eq_ok]
  constructor
  · rintro ⟨expiration, expires, params, shown, same⟩
    obtain ⟨recipient, addressed, rfl⟩ := Transfer.to_json_eq_ok.1 shown
    exact ⟨expiration, recipient, expires, addressed, (Except.ok.inj same).symm⟩
  · rintro ⟨expiration, recipient, expires, addressed, rfl⟩
    exact ⟨expiration, expires, _, Transfer.to_json_eq_ok.2 ⟨recipient, addressed, rfl⟩, rfl⟩

theorem document_of_transfer {projection : Projection} {draft : Draft} {transfer : Transfer}
    {document : Document} (one : draft.actions = [transfer.toAction])
    (shown : projection.document draft = .ok document) : ∃ expiration recipient,
      Instant.toText? (draft.header.timestamp.toInt.fdiv 1000) = some expiration ∧
      transfer.recipient.toBech32 projection.presentation.hrp = .ok recipient ∧
      document = projection.transferDocument draft.header.chainId expiration recipient
        draft.header.maxFee transfer.value :=
  (document_eq_ok_iff one).mp shown

theorem document_of_texts {projection : Projection} {draft : Draft} {transfer : Transfer}
    {expiration recipient : String} (one : draft.actions = [transfer.toAction])
    (expires : Instant.toText? (draft.header.timestamp.toInt.fdiv 1000) = some expiration)
    (addressed : transfer.recipient.toBech32 projection.presentation.hrp = .ok recipient) :
    projection.document draft = .ok (projection.transferDocument draft.header.chainId expiration
      recipient draft.header.maxFee transfer.value) :=
  (document_eq_ok_iff one).mpr ⟨expiration, recipient, expires, addressed, rfl⟩

/-! ## Type strings -/

def domainTypeText : String :=
  "EIP712Domain(string name,string version,uint256 chainId,address verifyingContract)"

def paramsTypeText : String := "Params(string to,string value)"

def transactionTypeText : String :=
  "Transaction(string expiration,string maxFee,string action,Params params)" ++ paramsTypeText

theorem domain_fits (projection : Projection) (chainId : Identifier) :
    (projection.domain chainId).Fits transferSchema where
  declared := rfl
  scalars := by decide

theorem definition_of_domain (projection : Projection) (chainId : Identifier) :
    Schema.definition domainType (projection.domain chainId).fields = domainTypeText := by
  change Schema.definition domainType [⟨"name", "string"⟩, ⟨"version", "string"⟩,
    ⟨"chainId", "uint256"⟩, ⟨"verifyingContract", "address"⟩] = domainTypeText
  decide

theorem encode_type_of_params :
    transferSchema.encodeType "Params" = .ok paramsTypeText := by
  have declared : transferSchema.fields? "Params" = some _ := rfl
  rw [Schema.encode_type_of_primitives declared (by decide)]
  exact congrArg Except.ok (by decide)

theorem encode_type_of_transaction :
    transferSchema.encodeType "Transaction" = .ok transactionTypeText := by
  have declared : transferSchema.fields? "Transaction" = some _ := rfl
  have walked : transferSchema.reach ["Transaction"] [
      ⟨"expiration", "string"⟩, ⟨"maxFee", "string"⟩, ⟨"action", "string"⟩,
      ⟨"params", "Params"⟩] = .ok ["Params", "Transaction"] := by
    rw [Schema.reach_of_primitive (by decide), Schema.reach_of_primitive (by decide),
      Schema.reach_of_primitive (by decide), Schema.reach_of_fresh rfl rfl]
    exact Schema.reach_of_primitives _ (by decide)
  have others : (["Params", "Transaction"].filter (· ≠ "Transaction")) = ["Params"] := by decide
  rw [Schema.encode_type_of_reached declared walked, others, List.mergeSort_singleton]
  exact congrArg Except.ok (by decide)

/-! ## Words -/

variable (hash : HashFunction) (projection : Projection) (chainId : Identifier)
  (expiration recipient : String) (maxFee value : UInt64)

/-- What is hashed for a struct with the given type string and words. -/
def structPreimage (type : String) (words : List Digest) : List UInt8 :=
  (hash (utf8 type)).toList ++ words.flatMap Octets.toList

def domainPreimage : List UInt8 :=
  structPreimage hash domainTypeText [
    hash (utf8 projection.domainName), hash (utf8 projection.domainVersion),
    wordOfInt (projection.chainNumber chainId).toNat,
    (Octets.zero 12).append projection.verifyingContract]

def paramsPreimage : List UInt8 :=
  structPreimage hash paramsTypeText [
    hash (utf8 recipient), hash (utf8 (projection.presentation.formatBalance value))]

def transactionPreimage : List UInt8 :=
  structPreimage hash transactionTypeText [
    hash (utf8 expiration), hash (utf8 (projection.presentation.formatBalance maxFee)),
    hash (utf8 "Transfer"), hash (paramsPreimage hash projection recipient value)]

def signedPreimage : List UInt8 :=
  0x19 :: 0x01 :: ((hash (domainPreimage hash projection chainId)).toList ++
    (hash (transactionPreimage hash projection expiration recipient maxFee value)).toList)

/-! ## Hashes -/

theorem undeclared_string : transferSchema.declares "string" = false := rfl

theorem preimage_of_domain :
    (projection.domain chainId).preimage hash = domainPreimage hash projection chainId := by
  rw [Domain.preimage, definition_of_domain]
  rfl

theorem encode_data_of_params :
    encodeData hash transferSchema "Params" (projection.transferParams recipient value) =
      .ok ([
        hash (utf8 recipient),
        hash (utf8 (projection.presentation.formatBalance value))].flatMap Octets.toList) := by
  have declared : transferSchema.fields? "Params" = some _ := rfl
  apply encode_data_of_words declared
  exact .cons ⟨_, rfl, encode_value_of_string undeclared_string _⟩
    (.cons ⟨_, rfl, encode_value_of_string undeclared_string _⟩ .nil)

theorem encode_data_of_transaction :
    encodeData hash transferSchema "Transaction"
        (projection.transferDocument chainId expiration recipient maxFee value).message =
      .ok ([
        hash (utf8 expiration), hash (utf8 (projection.presentation.formatBalance maxFee)),
        hash (utf8 "Transfer"),
        hash (paramsPreimage hash projection recipient value)].flatMap Octets.toList) := by
  have declared : transferSchema.fields? "Transaction" = some _ := rfl
  apply encode_data_of_words declared
  refine .cons ⟨_, rfl, encode_value_of_string undeclared_string _⟩
    (.cons ⟨_, rfl, encode_value_of_string undeclared_string _⟩
      (.cons ⟨_, rfl, encode_value_of_string undeclared_string _⟩ (.cons ⟨_, rfl, ?_⟩ .nil)))
  exact (encode_value_eq_ok_of_struct rfl rfl).mpr ⟨_, rfl, hash_struct_of_words
    encode_type_of_params (encode_data_of_params hash projection recipient value)⟩

theorem preimage_of_transfer :
    ∃ preimage, (projection.transferDocument chainId expiration recipient maxFee value).preimage
        hash = .ok preimage ∧
      preimage.toList =
        signedPreimage hash projection chainId expiration recipient maxFee value := by
  refine ⟨⟨signedPreimage hash projection chainId expiration recipient maxFee value,
    by simp [signedPreimage]⟩, Document.preimage_eq_ok.2 ⟨_, _, ?_, ?_, rfl⟩, rfl⟩
  · rw [Document.domain_separator_eq]
    rw [← preimage_of_domain]
    exact Domain.hash_struct_eq hash (domain_fits projection chainId)
  · exact hash_struct_of_words encode_type_of_transaction
      (encode_data_of_transaction hash projection chainId expiration recipient maxFee value)

theorem signing_hash_of_transfer :
    (projection.transferDocument chainId expiration recipient maxFee value).signingHash hash =
      .ok (hash (signedPreimage hash projection chainId expiration recipient maxFee value)) := by
  obtain ⟨preimage, found, octets⟩ :=
    preimage_of_transfer hash projection chainId expiration recipient maxFee value
  exact Document.signing_hash_eq_ok.2 ⟨preimage, found, by rw [octets]⟩

/-! ## The strings that are hashed -/

/-- The fourteen strings that are hashed for a transfer. -/
def hashedStrings : List (List UInt8) := [
  utf8 domainTypeText, utf8 projection.domainName, utf8 projection.domainVersion,
  domainPreimage hash projection chainId,
  utf8 transactionTypeText, utf8 expiration, utf8 (projection.presentation.formatBalance maxFee),
  utf8 "Transfer", utf8 paramsTypeText, utf8 recipient,
  utf8 (projection.presentation.formatBalance value),
  paramsPreimage hash projection recipient value,
  transactionPreimage hash projection expiration recipient maxFee value,
  signedPreimage hash projection chainId expiration recipient maxFee value]

variable {hash projection chainId expiration recipient maxFee value}

theorem hashed_in_domain {bytes : List UInt8}
    (hashed : HashedInStruct hash transferSchema (projection.domain chainId).message domainType
      bytes) :
    bytes ∈ [utf8 domainTypeText, domainPreimage hash projection chainId,
      utf8 projection.domainName, utf8 projection.domainVersion] := by
  have listed := Domain.mem_hashed_strings (domain_fits projection chainId) hashed
  rw [Domain.hashedStrings, definition_of_domain, preimage_of_domain] at listed
  exact listed

theorem hashed_in_params {bytes : List UInt8}
    (hashed : HashedInStruct hash transferSchema (projection.transferParams recipient value)
      "Params" bytes) :
    bytes ∈ [utf8 paramsTypeText, utf8 recipient,
      utf8 (projection.presentation.formatBalance value),
      paramsPreimage hash projection recipient value] := by
  have declared : transferSchema.fields? "Params" = some _ := rfl
  rcases hashed.cases_of_words encode_type_of_params declared
      (encode_data_of_params hash projection recipient value)
    with rfl | rfl | ⟨field, listed, shown, found, inside⟩
  · simp
  · simp [paramsPreimage, structPreimage]
  · simp only [List.mem_cons, List.not_mem_nil, or_false] at listed
    rcases listed with rfl | rfl
    · cases found
      simp [inside.eq_of_string undeclared_string]
    · cases found
      simp [inside.eq_of_string undeclared_string]

theorem mem_hashed_strings {bytes : List UInt8}
    (hashed : (projection.transferDocument chainId expiration recipient maxFee value).Hashed hash
      bytes) :
    bytes ∈ hashedStrings hash projection chainId expiration recipient maxFee value := by
  cases hashed with
  | domain inside =>
      have listed := hashed_in_domain inside
      simp only [List.mem_cons, List.not_mem_nil, or_false] at listed
      rcases listed with rfl | rfl | rfl | rfl <;> simp [hashedStrings]
  | message inside =>
      have declared : transferSchema.fields? "Transaction" = some _ := rfl
      rcases inside.cases_of_words encode_type_of_transaction declared
          (encode_data_of_transaction hash projection chainId expiration recipient maxFee value)
        with rfl | rfl | ⟨field, listed, shown, found, deeper⟩
      · simp [hashedStrings]
      · simp [hashedStrings, transactionPreimage, structPreimage]
      · simp only [List.mem_cons, List.not_mem_nil, or_false] at listed
        rcases listed with rfl | rfl | rfl | rfl
        · cases found
          simp [hashedStrings, deeper.eq_of_string undeclared_string]
        · cases found
          simp [hashedStrings, deeper.eq_of_string undeclared_string]
        · cases found
          simp [hashedStrings, deeper.eq_of_string undeclared_string]
        · cases found
          have params := hashed_in_params (deeper.hashed_in_struct rfl)
          simp only [List.mem_cons, List.not_mem_nil, or_false] at params
          rcases params with rfl | rfl | rfl | rfl <;> simp [hashedStrings]
  | preimage found =>
      obtain ⟨preimage, same, octets⟩ :=
        preimage_of_transfer hash projection chainId expiration recipient maxFee value
      cases found.symm.trans same
      simp [hashedStrings, octets]

end Projection
end SignedTx
