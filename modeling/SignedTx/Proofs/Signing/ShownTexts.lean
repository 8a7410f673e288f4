import SignedTx.Proofs.Balance
import SignedTx.Proofs.Signing.TransferDocument
import SignedTx.Proofs.Text.Bech32.Reading
import SignedTx.Proofs.Text.Calendar

/-!
# What a wallet shows is what is signed

A transfer is shown as four texts. Each of them is read back as what it stands for: the address under
a human-readable part without capitals, both balances with any number of decimals, the second as a
date-time of the Gregorian calendar. Nothing but the human-readable part and the calendar's range
decides whether there is a document.
-/

set_option autoImplicit false

namespace SignedTx

open TypedData

namespace Transfer

variable {presentation : Presentation} {transfer : Transfer}

theorem of_json_to_json {params : Json.Object} (small : Bech32.IsSmall presentation.hrp)
    (shown : transfer.toJson presentation = .ok params) :
    ofJson params presentation = .ok transfer := by
  obtain ⟨recipient, addressed, rfl⟩ := to_json_eq_ok.1 shown
  have address : presentation.parseAddress recipient = .ok transfer.recipient :=
    Address.of_bech32_to_bech32 small addressed
  have balance : presentation.parseBalance (presentation.formatBalance transfer.value) =
      .ok transfer.value :=
    Balance.parse_format presentation.decimals transfer.value
  have shownTo : stringMember [("to", .string recipient),
      ("value", .string (presentation.formatBalance transfer.value))] "to" = .ok recipient := rfl
  have shownValue : stringMember [("to", .string recipient),
      ("value", .string (presentation.formatBalance transfer.value))] "value" =
      .ok (presentation.formatBalance transfer.value) := rfl
  rw [ofJson, shownTo, shownValue]
  simp only [Outcome.bind_eq_ok_iff, Outcome.map_error_eq_ok_iff]
  exact ⟨_, rfl, _, address, _, rfl, _, balance, rfl⟩

/-- The address comes first, and under such a part there is none. -/
theorem of_json_of_capital (capital : ¬ Bech32.IsSmall presentation.hrp) (params : Json.Object) :
    ∃ e, ofJson params presentation = .error e := by
  rw [ofJson]
  cases member : stringMember params "to" with
  | error e => exact ⟨e, rfl⟩
  | ok text =>
      obtain ⟨e, refused⟩ : ∃ e, presentation.parseAddress text = .error e :=
        Address.of_bech32_of_capital capital text
      have failed : (presentation.parseAddress text).mapError TxError.format =
          .error (.format e) := by
        rw [refused]
        rfl
      exact ⟨.format e, Outcome.bind_eq_error_iff.2
        (.inr ⟨text, rfl, Outcome.bind_eq_error_iff.2 (.inl failed)⟩)⟩

end Transfer

namespace Projection

variable {projection : Projection} {draft : Draft} {transfer : Transfer}

/-- A document is missing for the two causes that a text can be missing for. -/
theorem document_exists_iff (one : draft.actions = [transfer.toAction]) :
    (∃ document, projection.document draft = .ok document) ↔
      (∃ seen, Bech32.checkHrp projection.presentation.hrp = .ok seen) ∧
        Instant.isInRange (draft.header.timestamp.toInt.fdiv 1000) = true := by
  constructor
  · rintro ⟨document, shown⟩
    obtain ⟨expiration, recipient, expires, addressed, -⟩ := document_of_transfer one shown
    exact ⟨Address.hrp_of_to_bech32 addressed, (Instant.to_text_eq_some.1 expires).1⟩
  · rintro ⟨⟨seen, usable⟩, inside⟩
    obtain ⟨recipient, addressed⟩ := transfer.recipient.to_bech32_of_hrp usable
    obtain ⟨expiration, expires⟩ := Instant.to_text_of_in_range inside
    exact ⟨_, document_of_texts one expires addressed⟩

end Projection

/-- The texts in the document of a transfer are read back as the transfer, the largest fee and the
second of its time, for any decimals and any time. Only the human-readable part and the calendar's
range decide whether there is a document. Under a human-readable part with a capital nothing is read
back, so never another transfer. -/
theorem shown_texts_denote_transfer (projection : Projection) (tx : Transaction)
    (transfer : Transfer) (one : tx.actions = [transfer.toAction]) :
    (Bech32.IsSmall projection.presentation.hrp →
      ∀ document, projection.document tx.toDraft = .ok document →
        ∃ params maxFee expiration,
          document.message.get? "params" = some (.object params) ∧
          Transfer.ofJson params projection.presentation = .ok transfer ∧
          document.message.get? "maxFee" = some (.string maxFee) ∧
          projection.presentation.parseBalance maxFee = .ok tx.header.maxFee ∧
          document.message.get? "expiration" = some (.string expiration) ∧
          Instant.ofText? expiration.toList = some (tx.header.timestamp.toInt.fdiv 1000)) ∧
      ((∃ document, projection.document tx.toDraft = .ok document) ↔
        (∃ seen, Bech32.checkHrp projection.presentation.hrp = .ok seen) ∧
          Instant.isInRange (tx.header.timestamp.toInt.fdiv 1000) = true) ∧
      ∀ presentation params, ¬ Bech32.IsSmall presentation.hrp →
        transfer.toJson presentation = .ok params →
        ∃ e, Transfer.ofJson params presentation = .error e := by
  refine ⟨?_, Projection.document_exists_iff one, ?_⟩
  · intro small document shown
    obtain ⟨expiration, recipient, expires, addressed, rfl⟩ :=
      Projection.document_of_transfer one shown
    have params : transfer.toJson projection.presentation =
        .ok (projection.transferParams recipient transfer.value) :=
      Transfer.to_json_eq_ok.2 ⟨recipient, addressed, rfl⟩
    refine ⟨_, _, expiration, rfl, Transfer.of_json_to_json small params, rfl,
      Balance.parse_format projection.presentation.decimals tx.header.maxFee, rfl, ?_⟩
    rw [(Instant.to_text_eq_some.1 expires).2, String.toList_ofList]
    exact Instant.of_text_format _
  · intro presentation params capital _
    exact Transfer.of_json_of_capital capital params

/-! ## A transfer before the year 0 -/

def crowdedProjection : Projection where
  presentation := { hrp := "m1", decimals := 40 }

def capitalPresentation : Presentation := { hrp := "M1" }

def largeTransfer : Transfer := ⟨Address.zero, 18446744073709551615⟩

/-- A millisecond before the year 0. -/
def ancientTransaction : Transaction where
  header := ⟨-62167219200001, Identifier.zero, 1⟩
  actions := [largeTransfer.toAction]

/-- A separator in the human-readable part, more decimals than digits and a negative year are read
back; under the same part with a capital the address is written but not read. -/
theorem ancient_transfer_is_shown :
    (∃ document params expiration,
      crowdedProjection.document ancientTransaction.toDraft = .ok document ∧
        document.message.get? "params" = some (.object params) ∧
        Transfer.ofJson params crowdedProjection.presentation = .ok largeTransfer ∧
        document.message.get? "expiration" = some (.string expiration) ∧
        Instant.ofText? expiration.toList = some (-62167219201)) ∧
      ∃ params e, largeTransfer.toJson capitalPresentation = .ok params ∧
        Transfer.ofJson params capitalPresentation = .error e := by
  obtain ⟨texts, made, capital⟩ :=
    shown_texts_denote_transfer crowdedProjection ancientTransaction largeTransfer rfl
  have usable : Bech32.checkHrp "m1" = .ok .lower := by decide
  have inside : Instant.isInRange (ancientTransaction.header.timestamp.toInt.fdiv 1000) = true := by
    decide
  obtain ⟨document, shown⟩ := made.mpr ⟨⟨.lower, usable⟩, inside⟩
  obtain ⟨params, maxFee, expiration, shownParams, transfer, -, -, shownTime, second⟩ :=
    texts (by decide) document shown
  have floor : ancientTransaction.header.timestamp.toInt.fdiv 1000 = -62167219201 := by decide
  rw [floor] at second
  have capitalUsable : Bech32.checkHrp "M1" = .ok .upper := by decide
  obtain ⟨recipient, addressed⟩ := largeTransfer.recipient.to_bech32_of_hrp capitalUsable
  obtain ⟨capitals, written⟩ : ∃ params, largeTransfer.toJson capitalPresentation = .ok params :=
    ⟨_, Transfer.to_json_eq_ok.2 ⟨recipient, addressed, rfl⟩⟩
  obtain ⟨e, refused⟩ := capital capitalPresentation capitals (by decide) written
  exact ⟨⟨document, params, expiration, shown, shownParams, transfer, shownTime, second⟩,
    capitals, e, written, refused⟩

end SignedTx
