import Mathlib.Data.Nat.ModEq
import SignedTx.Proofs.Balance
import SignedTx.Proofs.Ledger.Decoding
import SignedTx.Proofs.Ledger.Validation
import SignedTx.Proofs.Signing.TransferDocument
import SignedTx.Proofs.Text.Bech32
import SignedTx.Proofs.Text.Instant

/-!
# What a typed signature covers

The signing hash of a transfer covers a projection of it: the second of expiry, the reduced chain
id, the fee, the recipient and the value. What the projection loses is what validation fixes, so of
two valid transactions with one signing hash both are the same. The hash function is only asked to
separate the strings that are hashed for the two documents.
-/

set_option autoImplicit false

namespace SignedTx

open TypedData

namespace Projection

/-- The bound zero leaves the chain id as it is. -/
theorem chain_number_to_nat (projection : Projection) (chainId : Identifier) :
    (projection.chainNumber chainId).toNat =
      chainId.toNat % projection.maxSafeChainId.toNat := by
  have bounded : chainId.toNat < 2 ^ 256 := Octets.to_nat_lt chainId.toOctets
  have smaller := Nat.mod_le chainId.toNat projection.maxSafeChainId.toNat
  rw [chainNumber]
  by_cases zero : projection.maxSafeChainId.toNat = 0
  · simp only [zero, if_true, BitVec.toNat_ofNat, Nat.mod_zero]
    exact Nat.mod_eq_of_lt bounded
  · simp only [zero, if_false, BitVec.toNat_ofNat]
    exact Nat.mod_eq_of_lt (by omega)

theorem chain_number_eq_iff {projection : Projection} {left right : Identifier} :
    projection.chainNumber left = projection.chainNumber right ↔
      Nat.ModEq projection.maxSafeChainId.toNat left.toNat right.toNat := by
  rw [← BitVec.toNat_inj, chain_number_to_nat, chain_number_to_nat]
  exact Iff.rfl

theorem texts_eq_of_signing_hash_eq {hash : HashFunction} {projection : Projection}
    {chainId otherId : Identifier} {expiration otherExpiration recipient otherRecipient : String}
    {maxFee otherFee value otherValue : UInt64} {digest : Digest}
    (leftHash : (projection.transferDocument chainId expiration recipient maxFee value).signingHash
      hash = .ok digest)
    (rightHash : (projection.transferDocument otherId otherExpiration otherRecipient otherFee
      otherValue).signingHash hash = .ok digest)
    (separates : Separates hash
      ((projection.transferDocument chainId expiration recipient maxFee value).Hashed hash)
      ((projection.transferDocument otherId otherExpiration otherRecipient otherFee
        otherValue).Hashed hash)) :
    projection.chainNumber chainId = projection.chainNumber otherId ∧
      expiration = otherExpiration ∧ recipient = otherRecipient ∧ maxFee = otherFee ∧
      value = otherValue := by
  obtain ⟨⟨domainFields, domainDeclared, domains⟩, ⟨fields, declared, messages⟩⟩ :=
    Document.same_of_signing_hash_eq leftHash rightHash separates rfl rfl rfl
  cases domainDeclared
  cases declared
  change SameFields transferSchema _ (projection.domain chainId).message
    (projection.domain otherId).message at domains
  change SameFields transferSchema _ _ _ at messages
  have chain : ∀ id, (projection.domain id).message.get? "chainId" =
      some (.string (String.ofList (Digits.decimal (projection.chainNumber id).toNat))) := by
    intro id
    have listed : Domain.numberPart (projection.chainNumber id) ∈
        (projection.domain id).parts hash := by
      simp [Domain.parts, Projection.domain]
    exact Domain.get_part listed
  have params : SameFields transferSchema [⟨"to", "string"⟩, ⟨"value", "string"⟩]
      (projection.transferParams recipient value)
      (projection.transferParams otherRecipient otherValue) := by
    have listed : (⟨"params", "Params"⟩ : TypedData.Field) ∈ ([
        ⟨"expiration", "string"⟩, ⟨"maxFee", "string"⟩, ⟨"action", "string"⟩,
        ⟨"params", "Params"⟩] : List TypedData.Field) := by simp
    rcases messages.of_mem listed with ⟨shown, otherShown, found, otherFound, same⟩
    cases found
    cases otherFound
    exact same.struct_same rfl
  refine ⟨domains.number_eq "chainId" (by simp) rfl (chain chainId) (chain otherId),
    messages.text_eq "expiration" (by simp) undeclared_string rfl rfl,
    params.text_eq "to" (by simp) undeclared_string rfl rfl, ?_, ?_⟩
  · exact Balance.format_injective _
      (messages.text_eq "maxFee" (by simp) undeclared_string rfl rfl)
  · exact Balance.format_injective _ (params.text_eq "value" (by simp) undeclared_string rfl rfl)

theorem signed_preimage_congr {hash : HashFunction} {projection : Projection}
    {chainId otherId : Identifier} (expiration recipient : String) (maxFee value : UInt64)
    (chain : projection.chainNumber chainId = projection.chainNumber otherId) :
    signedPreimage hash projection chainId expiration recipient maxFee value =
      signedPreimage hash projection otherId expiration recipient maxFee value := by
  simp only [signedPreimage, domainPreimage, chain]

/-- The signed hash determines the chain number, both texts and both amounts, and nothing else. -/
theorem signed_hash_eq_iff {hash : HashFunction} {projection : Projection}
    {chainId otherId : Identifier} {expiration otherExpiration recipient otherRecipient : String}
    {maxFee otherFee value otherValue : UInt64}
    (separates : Separates hash
      ((projection.transferDocument chainId expiration recipient maxFee value).Hashed hash)
      ((projection.transferDocument otherId otherExpiration otherRecipient otherFee
        otherValue).Hashed hash)) :
    hash (signedPreimage hash projection chainId expiration recipient maxFee value) =
        hash (signedPreimage hash projection otherId otherExpiration otherRecipient otherFee
          otherValue) ↔
      projection.chainNumber chainId = projection.chainNumber otherId ∧
        expiration = otherExpiration ∧ recipient = otherRecipient ∧ maxFee = otherFee ∧
        value = otherValue := by
  have leftHash := signing_hash_of_transfer hash projection chainId expiration recipient maxFee
    value
  have rightHash := signing_hash_of_transfer hash projection otherId otherExpiration
    otherRecipient otherFee otherValue
  constructor
  · intro same
    rw [← same] at rightHash
    exact texts_eq_of_signing_hash_eq leftHash rightHash separates
  · intro parts
    rcases parts with ⟨chain, rfl, rfl, rfl, rfl⟩
    rw [signed_preimage_congr expiration recipient maxFee value chain]

end Projection

/-- Texts are those of the same second if and only if they are equal. -/
theorem Instant.to_text_eq_iff {left right : Int} {leftText rightText : String}
    (leftShown : Instant.toText? left = some leftText)
    (rightShown : Instant.toText? right = some rightText) :
    leftText = rightText ↔ left = right := by
  constructor
  · intro same
    rw [← same] at rightShown
    exact Instant.to_text_injective leftShown rightShown
  · intro same
    rw [← same, leftShown] at rightShown
    exact Option.some.inj rightShown

theorem Address.to_bech32_eq_iff {hrp : String} {left right : Address}
    {leftText rightText : String} (leftShown : left.toBech32 hrp = .ok leftText)
    (rightShown : right.toBech32 hrp = .ok rightText) : leftText = rightText ↔ left = right := by
  constructor
  · intro same
    rw [← same] at rightShown
    exact Address.to_bech32_injective leftShown rightShown
  · intro same
    rw [← same, leftShown] at rightShown
    exact Except.ok.inj rightShown

/-- The signing hash of a transfer exists and covers exactly the second of its expiry, the chain id
modulo the bound (as it is, if the bound is zero), the fee, the recipient and the value. Of two
transactions that are valid under the same rules, at whatever times, one hash leaves no choice. -/
theorem typed_hash_covers_transfer (hash : HashFunction) (projection : Projection)
    (left right : Transaction) (leftTransfer rightTransfer : Transfer)
    (leftDocument rightDocument : Document)
    (leftOne : left.actions = [leftTransfer.toAction])
    (rightOne : right.actions = [rightTransfer.toAction])
    (leftShown : projection.document left.toDraft = .ok leftDocument)
    (rightShown : projection.document right.toDraft = .ok rightDocument)
    (injective : Set.InjOn hash
      {bytes | leftDocument.Hashed hash bytes ∨ rightDocument.Hashed hash bytes}) :
    ∃ leftHash rightHash, leftDocument.signingHash hash = .ok leftHash ∧
      rightDocument.signingHash hash = .ok rightHash ∧
      (leftHash = rightHash ↔
        left.header.timestamp.toInt.fdiv 1000 = right.header.timestamp.toInt.fdiv 1000 ∧
          Nat.ModEq projection.maxSafeChainId.toNat left.header.chainId.toNat
            right.header.chainId.toNat ∧
          left.header.maxFee = right.header.maxFee ∧
          leftTransfer.recipient = rightTransfer.recipient ∧
          leftTransfer.value = rightTransfer.value) ∧
      ∀ (rules : Rules) (leftNow rightNow : Int64), left.validate rules leftNow = .ok () →
        right.validate rules rightNow = .ok () → leftHash = rightHash →
        left.header = right.header ∧ leftTransfer = rightTransfer ∧
          ∃ bytes, left.digest = .ok bytes ∧ right.digest = .ok bytes := by
  obtain ⟨expiration, recipient, expires, addressed, rfl⟩ :=
    Projection.document_of_transfer leftOne leftShown
  obtain ⟨otherExpiration, otherRecipient, otherExpires, otherAddressed, rfl⟩ :=
    Projection.document_of_transfer rightOne rightShown
  have covered := Projection.signed_hash_eq_iff injective
  rw [Projection.chain_number_eq_iff, Instant.to_text_eq_iff expires otherExpires,
    Address.to_bech32_eq_iff addressed otherAddressed] at covered
  refine ⟨_, _, Projection.signing_hash_of_transfer .., Projection.signing_hash_of_transfer ..,
    ?_, ?_⟩
  · rw [covered]
    constructor
    · intro parts
      rcases parts with ⟨chain, second, recipients, fee, value⟩
      exact ⟨second, chain, fee, recipients, value⟩
    · intro parts
      rcases parts with ⟨second, chain, fee, recipients, value⟩
      exact ⟨chain, second, recipients, fee, value⟩
  · intro rules leftNow rightNow leftValid rightValid same
    rcases covered.mp same with ⟨-, second, recipients, fee, value⟩
    have header : left.header = right.header :=
      Transaction.header_eq_of_validate leftValid rightValid second fee
    have transfer : leftTransfer = rightTransfer := by
      cases leftTransfer
      cases rightTransfer
      cases recipients
      cases value
      rfl
    have draft : left.toDraft = right.toDraft := by
      have actions : left.actions = right.actions := by rw [leftOne, rightOne, transfer]
      calc left.toDraft = ⟨left.header, left.actions⟩ := rfl
        _ = ⟨right.header, right.actions⟩ := by rw [header, actions]
        _ = right.toDraft := rfl
    have written : right.toDraft.digest = .ok right.toDraft.layout := by
      apply Draft.digest_eq_layout
      · simp [rightOne, maxActions]
      · intro action member
        rw [rightOne, List.mem_singleton] at member
        rw [member]
        exact rightTransfer.action_truthful
    exact ⟨header, transfer, right.toDraft.layout, by rw [draft, written], written⟩

/-! ## A shown transfer -/

/-- Octets modulo a prime: enough to keep a few strings apart. -/
def residueHash : HashFunction := fun bytes => Octets.ofNat 32 (beNat bytes % (2 ^ 255 - 19))

def shownTransaction (timestamp : Int64) (chain : Nat) (value : UInt64) : Transaction where
  header := ⟨timestamp, ⟨Octets.ofNat 32 chain⟩, 10⟩
  actions := [Transfer.toAction ⟨⟨Octets.zero 33⟩, value⟩]

def shownRecipient : String :=
  "morpheus1qqqqqqqqqqqqqqqqqqqqqqqqqqqqqqqqqqqqqqqqqqqqqqqqqqqqqxez33a"

def shownDocument (chain : Nat) (value : UInt64) : Document :=
  Projection.transferDocument {} ⟨Octets.ofNat 32 chain⟩ "2023-11-14T22:13:20Z" shownRecipient 10
    value

theorem document_of_shown {timestamp : Int64} (chain : Nat) (value : UInt64)
    (second : timestamp.toInt.fdiv 1000 = 1700000000) :
    Projection.document {} (shownTransaction timestamp chain value).toDraft =
      .ok (shownDocument chain value) := by
  have one : (shownTransaction timestamp chain value).toDraft.actions =
      [Transfer.toAction ⟨⟨Octets.zero 33⟩, value⟩] := rfl
  have expires : Instant.toText? (timestamp.toInt.fdiv 1000) = some "2023-11-14T22:13:20Z" := by
    rw [second]
    decide +kernel
  have addressed : (⟨Octets.zero 33⟩ : Address).toBech32 ({} : Projection).presentation.hrp =
      .ok shownRecipient := by
    decide +kernel
  have shown := Projection.document_of_texts one expires addressed
  exact shown

def shownStrings (chain : Nat) (value : UInt64) : List (List UInt8) :=
  Projection.hashedStrings residueHash {} ⟨Octets.ofNat 32 chain⟩ "2023-11-14T22:13:20Z"
    shownRecipient 10 value

theorem inj_on_shown {chain other : Nat} {value otherValue : UInt64}
    (distinct : (((shownStrings chain value ++ shownStrings other otherValue).dedup).map
      residueHash).Nodup) :
    Set.InjOn residueHash {bytes | (shownDocument chain value).Hashed residueHash bytes ∨
      (shownDocument other otherValue).Hashed residueHash bytes} := by
  apply separates_of_listed distinct
  intro bytes inside
  rw [List.mem_append]
  exact inside.imp Projection.mem_hashed_strings Projection.mem_hashed_strings

/-- Milliseconds and a multiple of the bound on the chain id leave the hash as it is; one unit of
value does not. -/
theorem shown_transfers_share_a_hash :
    ∃ digest other, (shownDocument 5 7).signingHash residueHash = .ok digest ∧
      (shownDocument 4503599627370481 7).signingHash residueHash = .ok digest ∧
      (shownDocument 5 8).signingHash residueHash = .ok other ∧ digest ≠ other := by
  obtain ⟨digest, reduced, hashed, reducedHashed, same, -⟩ :=
    typed_hash_covers_transfer residueHash {} (shownTransaction 1700000000000 5 7)
      (shownTransaction 1700000000999 4503599627370481 7) _ _ _ _ rfl rfl
      (document_of_shown 5 7 rfl) (document_of_shown 4503599627370481 7 rfl)
      (inj_on_shown (by decide +kernel))
  obtain ⟨digestAgain, other, hashedAgain, otherHashed, changed, -⟩ :=
    typed_hash_covers_transfer residueHash {} (shownTransaction 1700000000000 5 7)
      (shownTransaction 1700000000000 5 8) _ _ _ _ rfl rfl
      (document_of_shown 5 7 rfl) (document_of_shown 5 8 rfl) (inj_on_shown (by decide +kernel))
  have first : digest = digestAgain := Except.ok.inj (hashed.symm.trans hashedAgain)
  have shared : digest = reduced := same.mpr ⟨by decide, by decide +kernel, rfl, rfl, rfl⟩
  refine ⟨digest, other, hashed, shared ▸ reducedHashed, otherHashed, ?_⟩
  intro equal
  rcases changed.mp (first.symm.trans equal) with ⟨-, -, -, -, value⟩
  exact absurd value (by decide)

end SignedTx
