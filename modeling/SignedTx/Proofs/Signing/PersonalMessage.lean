import SignedTx.Crypto.Secp256k1
import SignedTx.Proofs.Signing.Actor
import SignedTx.Proofs.Signing.TypedCoverage
import SignedTx.Proofs.Text.Digits
import SignedTx.Proofs.Text.Hex

/-!
# What a raw signature covers

A personal message stands behind its length in decimal, without a separator, yet it is known from
the preimage: longer messages have longer preimages. The raw scheme takes digests as messages, and a
digest determines header and transfers. No personal message is hashed as typed data are, so one hash
for both schemes is a collision of the hash function, of strings that are named here.
-/

set_option autoImplicit false

namespace SignedTx

/-! ## Personal messages -/

/-- The length of a message as a wallet writes it. -/
def lengthText (length : Nat) : List UInt8 := utf8 (String.ofList (Digits.decimal length))

theorem length_length_text (length : Nat) :
    (lengthText length).length = (Digits.decimal length).length := by
  have ascii : ∀ c ∈ Digits.decimal length, c.toNat < 128 := by
    intro c member
    have digit := Digits.is_digit_of_mem_decimal member
    rw [← Digits.is_decimal_eq_is_digit] at digit
    have upper : c.toNat ≤ 57 := (of_decide_eq_true (Bool.and_eq_true_iff.mp digit).2 : c ≤ '9')
    omega
  rw [lengthText, utf8_of_ascii ascii, List.length_map]

theorem length_personal_preimage (message : List UInt8) :
    (personalPreimage message).length =
      26 + (Digits.decimal message.length).length + message.length := by
  have marker : (utf8 "\x19Ethereum Signed Message:\n").length = 26 := by decide
  have text := length_length_text message.length
  rw [lengthText] at text
  rw [personalPreimage, List.length_append, List.length_append, marker, text]

/-- A longer message does not have a shorter length text, so its preimage is longer. -/
theorem length_lt_of_longer {left right : List UInt8} (longer : left.length < right.length) :
    (personalPreimage left).length < (personalPreimage right).length := by
  have digits := Digits.length_decimal_le (Nat.le_of_lt longer)
  rw [length_personal_preimage, length_personal_preimage]
  omega

theorem personal_preimage_injective : Function.Injective personalPreimage := by
  intro left right same
  have lengths : left.length = right.length := by
    have preimages := congrArg List.length same
    rcases Nat.lt_trichotomy left.length right.length with shorter | equal | longer
    · exact absurd preimages (Nat.ne_of_lt (length_lt_of_longer shorter))
    · exact equal
    · exact absurd preimages.symm (Nat.ne_of_lt (length_lt_of_longer longer))
  rw [personalPreimage, personalPreimage, lengths] at same
  exact List.append_cancel_left same

/-! ## Typed data -/

/-- The second octet is a letter, where typed data have their version. -/
theorem personal_preimage_head (message : List UInt8) :
    ∃ rest, personalPreimage message = 0x19 :: 0x45 :: rest := by
  have marker : utf8 "\x19Ethereum Signed Message:\n" =
      0x19 :: 0x45 :: utf8 "thereum Signed Message:\n" := by
    decide
  rw [personalPreimage, marker]
  exact ⟨_, rfl⟩

theorem personal_preimage_ne_typed {hash : HashFunction} {document : TypedData.Document}
    {preimage : Octets 66} (message : List UInt8)
    (found : document.preimage hash = .ok preimage) :
    personalPreimage message ≠ preimage.toList := by
  obtain ⟨domain, content, -, -, typed⟩ := TypedData.Document.preimage_eq_ok.1 found
  obtain ⟨rest, personal⟩ := personal_preimage_head message
  intro same
  rw [personal, typed] at same
  injection same with _ later
  injection later with second
  exact absurd second (by decide)

/-! ## Digests of transfers -/

theorem Transfer.to_action_injective : Function.Injective Transfer.toAction := by
  intro left right same
  have fields : [Wire.Field.address left.recipient, .uint64 left.value] =
      [.address right.recipient, .uint64 right.value] := congrArg Action.fields same
  cases left
  cases right
  simp only [List.cons.injEq, Wire.Field.address.injEq, Wire.Field.uint64.injEq, and_true] at fields
  rcases fields with ⟨rfl, rfl⟩
  rfl

namespace Draft.Carries

variable {draft : Draft} {transfers : List Transfer}

/-- With the flag of an absent credential after it a digest is a wire form, and what is read from a
wire form is one draft. -/
theorem draft_eq_of_layout_eq {other : Draft} {others : List Transfer}
    (made : draft.Carries transfers) (otherMade : other.Carries others)
    (same : draft.layout = other.layout) : draft = other := by
  have sent : Transaction.ofBytes (Registry.stockTables Crypto.standard {}) _ = .ok ⟨draft, none⟩ :=
    (Registry.of_bytes_stock_eq_ok_iff {}).mpr ⟨rfl, made.unsigned_is_stock⟩
  have otherSent : Transaction.ofBytes (Registry.stockTables Crypto.standard {}) _ =
      .ok ⟨other, none⟩ := (Registry.of_bytes_stock_eq_ok_iff {}).mpr
        ⟨rfl, otherMade.unsigned_is_stock⟩
  have wires : (⟨draft, none⟩ : Transaction).layout = (⟨other, none⟩ : Transaction).layout :=
    congrArg (· ++ [0]) same
  rw [wires, otherSent] at sent
  exact (congrArg Transaction.toDraft (Except.ok.inj sent)).symm

theorem layout_eq_iff {other : Draft} {others : List Transfer}
    (made : draft.Carries transfers) (otherMade : other.Carries others) :
    draft.layout = other.layout ↔ draft.header = other.header ∧ transfers = others := by
  constructor
  · intro same
    cases made.draft_eq_of_layout_eq otherMade same
    refine ⟨rfl, ?_⟩
    have actions := made.actions.symm.trans otherMade.actions
    exact List.map_injective_iff.mpr Transfer.to_action_injective actions
  · intro parts
    rcases parts with ⟨headers, rfl⟩
    rw [Draft.layout, Draft.layout, headers, made.actions, otherMade.actions]

end Draft.Carries

/-! ## The two schemes -/

/-- The preimage of a raw signature determines header and transfers, as that of a personal message
determines the message. It never is the preimage of typed data, so what the two schemes ask of a
signature is to count for the hashes of two different strings. -/
theorem raw_preimage_determines_transaction (crypto : Crypto) :
    (∀ (left right : Transaction) (leftTransfers rightTransfers : List Transfer),
      left.actions = leftTransfers.map Transfer.toAction →
      right.actions = rightTransfers.map Transfer.toAction →
      leftTransfers.length ≤ maxActions → rightTransfers.length ≤ maxActions →
      ∃ leftDigest rightDigest,
        left.digest = .ok leftDigest ∧ right.digest = .ok rightDigest ∧
        (personalPreimage leftDigest = personalPreimage rightDigest ↔
          left.header = right.header ∧ leftTransfers = rightTransfers)) ∧
    Function.Injective personalPreimage ∧
    (∀ (message : List UInt8) (document : TypedData.Document) (preimage : Octets 66),
      document.preimage crypto.keccak = .ok preimage →
      personalPreimage message ≠ preimage.toList) ∧
    ∀ (projection : Projection) (raw typed : Draft) (rawHash typedHash : Digest),
      RawScheme.signingHash crypto raw = .ok rawHash →
      projection.signingHash crypto.keccak typed = .ok typedHash →
      ∃ bytes document preimage, raw.digest = .ok bytes ∧
        projection.document typed = .ok document ∧
        document.preimage crypto.keccak = .ok preimage ∧
        rawHash = crypto.keccak (personalPreimage bytes) ∧
        typedHash = crypto.keccak preimage.toList ∧
        personalPreimage bytes ≠ preimage.toList ∧
        ∀ signed : SignedBy crypto,
          (RawScheme.credential signed).verify raw = signed.verify rawHash ∧
            (TypedScheme.credential projection signed).verify typed =
              signed.verify typedHash := by
  refine ⟨?_, personal_preimage_injective, ?_, ?_⟩
  · intro left right leftTransfers rightTransfers leftActions rightActions leftCount rightCount
    have leftMade : left.toDraft.Carries leftTransfers := ⟨leftActions, leftCount⟩
    have rightMade : right.toDraft.Carries rightTransfers := ⟨rightActions, rightCount⟩
    refine ⟨_, _, leftMade.digest_eq, rightMade.digest_eq, ?_⟩
    rw [personal_preimage_injective.eq_iff]
    exact leftMade.layout_eq_iff rightMade
  · intro message document preimage found
    exact personal_preimage_ne_typed message found
  · intro projection raw typed rawHash typedHash rawHashed typedHashed
    obtain ⟨bytes, written, rfl⟩ := RawScheme.signing_hash_eq_ok.1 rawHashed
    obtain ⟨document, preimage, shown, found, rfl⟩ :=
      Projection.signing_hash_eq_ok.1 typedHashed
    refine ⟨bytes, document, preimage, written, shown, found, rfl, rfl,
      personal_preimage_ne_typed bytes found, ?_⟩
    intro signed
    constructor
    · exact StockScheme.raw.verify_of_signing_hash projection rawHashed
    · exact StockScheme.typed.verify_of_signing_hash projection typedHashed

/-! ## A transfer of nothing -/

def idleTransfer : Transfer := ⟨⟨Octets.zero 33⟩, 0⟩

/-- The transfer that is shown elsewhere and a transfer of nothing after it. -/
def idledTransaction : Transaction where
  header := (shownTransaction 1700000000000 5 7).header
  actions := [⟨⟨Octets.zero 33⟩, 7⟩, idleTransfer].map Transfer.toAction

/-- A transfer of nothing changes what the raw scheme signs, and neither of the two preimages is
that of the document in which the transfer is shown. -/
theorem idle_transfer_changes_the_preimage :
    ∃ digest idled preimage rawHash typedHash,
      (shownTransaction 1700000000000 5 7).digest = .ok digest ∧
      idledTransaction.digest = .ok idled ∧
      personalPreimage digest ≠ personalPreimage idled ∧
      (shownDocument 5 7).preimage Crypto.standard.keccak = .ok preimage ∧
      personalPreimage idled ≠ preimage.toList ∧
      RawScheme.signingHash Crypto.standard (shownTransaction 1700000000000 5 7).toDraft =
        .ok rawHash ∧
      Projection.signingHash Crypto.standard.keccak {}
        (shownTransaction 1700000000000 5 7).toDraft = .ok typedHash ∧
      rawHash = Crypto.standard.keccak (personalPreimage digest) ∧
      typedHash = Crypto.standard.keccak preimage.toList ∧
      personalPreimage digest ≠ preimage.toList ∧
      ∀ signed : SignedBy Crypto.standard,
        (RawScheme.credential signed).verify (shownTransaction 1700000000000 5 7).toDraft =
            signed.verify rawHash ∧
          (TypedScheme.credential {} signed).verify
              (shownTransaction 1700000000000 5 7).toDraft =
            signed.verify typedHash := by
  obtain ⟨transactions, -, documents, schemes⟩ :=
    raw_preimage_determines_transaction Crypto.standard
  obtain ⟨digest, idled, written, idledWritten, same⟩ :=
    transactions (shownTransaction 1700000000000 5 7) idledTransaction [⟨⟨Octets.zero 33⟩, 7⟩]
      [⟨⟨Octets.zero 33⟩, 7⟩, idleTransfer] rfl rfl (by decide) (by decide)
  have shown : Projection.document {} (shownTransaction 1700000000000 5 7).toDraft =
      .ok (shownDocument 5 7) := document_of_shown 5 7 rfl
  obtain ⟨preimage, found, -⟩ : ∃ preimage,
      (shownDocument 5 7).preimage Crypto.standard.keccak = .ok preimage ∧ _ :=
    Projection.preimage_of_transfer ..
  have rawHashed : RawScheme.signingHash Crypto.standard
      (shownTransaction 1700000000000 5 7).toDraft = .ok _ :=
    RawScheme.signing_hash_eq_ok.2 ⟨digest, written, rfl⟩
  have typedHashed : Projection.signingHash Crypto.standard.keccak {}
      (shownTransaction 1700000000000 5 7).toDraft = .ok _ :=
    Projection.signing_hash_eq_ok.2 ⟨_, preimage, shown, found, rfl⟩
  obtain ⟨bytes, document, other, wrote, showed, foundAgain, raw, typed, apart,
    verified⟩ :=
    schemes {} _ _ _ _ rawHashed typedHashed
  cases Except.ok.inj (written.symm.trans wrote)
  cases Except.ok.inj (shown.symm.trans showed)
  cases Except.ok.inj (found.symm.trans foundAgain)
  refine ⟨digest, idled, preimage, _, _, written, idledWritten, ?_, found,
    documents idled _ preimage found, rawHashed, typedHashed, raw, typed, apart,
    verified⟩
  intro equal
  exact absurd (same.mp equal).2 (by decide)

end SignedTx
