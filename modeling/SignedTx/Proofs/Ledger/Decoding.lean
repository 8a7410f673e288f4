import SignedTx.Ledger.Transfer
import SignedTx.Proofs.Ledger.Decode
import SignedTx.Proofs.Ledger.Layout

/-!
# Decoding follows the layout

Header, transfer and transaction are read in the order of their layouts. For a transaction the
decoders of the registry are open: what each of them yields or accepts is a hypothesis here, and
what follows for the whole is stated for any such registry. The induction over the actions is the
one of `Decode.times`; the count octet bounds it.
-/

set_option autoImplicit false

namespace SignedTx

open Wire Decode

/-! ## Headers and transfers -/

theorem Header.decode_yields :
    Header.decode.Yields fun header bytes => bytes = encodeFields header.fields := by
  apply yields_bind yields_int64
  intro timestamp _
  apply yields_bind yields_id
  intro chainId _
  apply yields_bind yields_uint64
  intro maxFee _
  refine yields_check (yields_pure ?_).when_clean
  intro feeEq chainEq timestampEq
  subst feeEq chainEq timestampEq
  simp [Header.fields, Field.encode]

theorem Header.decode_accepts (header : Header) :
    Header.decode.Accepts (encodeFields header.fields) (· = header) := by
  simp only [Header.fields, encodeFields_cons, encodeFields_nil]
  apply accepts_bind (accepts_int64 header.timestamp)
  intro _ timestamp
  apply accepts_bind (accepts_id header.chainId)
  intro _ chainId
  apply accepts_bind (accepts_uint64 header.maxFee)
  intro _ maxFee
  exact accepts_check (accepts_pure (by rw [timestamp, chainId, maxFee]))

theorem Transfer.action_truthful (transfer : Transfer) :
    WirePart.Truthful transfer.toAction := by
  simp [WirePart.Truthful, WirePart.size, WirePart.payload, toAction, size, Action.payload,
    Field.encode, ofUInt64]

theorem Transfer.decode_yields :
    Transfer.decode.Yields fun transfer bytes => bytes = transfer.toAction.payload := by
  apply yields_bind yields_address
  intro recipient _
  apply yields_bind yields_uint64
  intro value _
  refine yields_check (yields_pure ?_).when_clean
  intro valueEq recipientEq
  subst valueEq recipientEq
  simp [Transfer.toAction, Action.payload, Field.encode]

theorem Transfer.decode_accepts (transfer : Transfer) :
    Transfer.decode.Accepts transfer.toAction.payload (· = transfer) := by
  simp only [Transfer.toAction, Action.payload, encodeFields_cons, encodeFields_nil]
  apply accepts_bind (accepts_address transfer.recipient)
  intro _ recipient
  apply accepts_bind (accepts_uint64 transfer.value)
  intro _ value
  exact accepts_check (accepts_pure (by rw [recipient, value]))

namespace Transaction

/-! ## Tagged parts -/

variable {α : Type} {table : DecoderTable α}

/-- An unknown type id yields nothing, so only registered decoders have to be looked at. -/
theorem decode_tagged_yields {spec : UInt8 → α → List UInt8 → Prop}
    (yields : ∀ typeId decoder, table.find? typeId = some decoder →
      decoder.YieldsWhenClean (spec typeId)) :
    (decodeTagged table).Yields fun part bytes =>
      ∃ typeId payload, bytes = typeId :: payload ∧ spec typeId part payload := by
  apply yields_bind yields_byte
  intro typeId _
  apply yields_check
  unfold DecoderTable.decode
  cases found : table.find? typeId with
  | none => exact yields_fail.when_clean
  | some decoder =>
      intro r part after clean decoded cleanAfter
      obtain ⟨payload, consumed, holds⟩ :=
        yields typeId decoder found r part after clean decoded cleanAfter
      refine ⟨payload, consumed, ?_⟩
      intro same
      subst same
      exact ⟨typeId, payload, rfl, holds⟩

theorem decode_tagged_accepts {typeId : UInt8} {payload : List UInt8} {holds : α → Prop}
    {decoder : Decode α} (found : table.find? typeId = some decoder)
    (accepts : decoder.Accepts payload holds) :
    (decodeTagged table).Accepts (typeId :: payload) holds := by
  apply accepts_bind (accepts_byte typeId)
  intro octet same
  subst same
  apply accepts_check
  rwa [DecoderTable.decode, found]

/-! ## Transactions -/

/-- The count octet names every count that is allowed. -/
theorem count_octet_to_nat {count : Nat} (few : count ≤ maxActions) :
    (UInt8.ofNat count).toNat = count := by
  have bounded : count < 2 ^ 8 := by
    rw [maxActions] at few
    exact Nat.lt_succ_of_le few
  simpa using bounded

variable {registry : Registry} {actionHolds : Action → Prop} {credentialHolds : Credential → Prop}

theorem decode_from_yields
    (actions : (decodeTagged registry.actions).Yields fun action bytes =>
      bytes = action.wire ∧ actionHolds action)
    (credentials : (decodeTagged registry.credentials).Yields fun credential bytes =>
      bytes = credential.wire ∧ credentialHolds credential) :
    (decodeFrom registry).Yields fun tx bytes => bytes = tx.layout ∧
      tx.actions.length ≤ maxActions ∧ (∀ action ∈ tx.actions, actionHolds action) ∧
      ∀ credential ∈ tx.credential, credentialHolds credential := by
  apply yields_bind Header.decode_yields
  intro header _
  apply yields_bind yields_byte
  intro count _
  refine yields_check (Yields.when_clean ?_)
  apply yields_bind (yields_times actions count.toNat)
  intro parts _
  apply yields_bind yields_bool
  intro signed _
  refine yields_check (Yields.when_clean ?_)
  have countBound : count.toNat ≤ maxActions := by
    have bounded := count.toNat_lt
    rw [maxActions]
    omega
  cases signed with
  | false =>
      apply yields_pure
      intro flagEq listed countEq headerEq
      rcases listed with ⟨lengthEq, actionsEq, hold⟩
      subst flagEq actionsEq countEq headerEq
      refine ⟨?_, by simpa [lengthEq] using countBound, hold, by simp⟩
      simp only [layout, Draft.layout, credentialLayout, lengthEq, UInt8.ofNat_toNat,
        List.append_assoc, List.cons_append, List.nil_append]
      rfl
  | true =>
      apply yields_bind_pure credentials
      intro credential tail signedBy flagEq listed countEq headerEq
      rcases signedBy with ⟨tailEq, credentialHold⟩
      rcases listed with ⟨lengthEq, actionsEq, hold⟩
      subst tailEq flagEq actionsEq countEq headerEq
      refine ⟨?_, by simpa [lengthEq] using countBound, hold, by simpa using credentialHold⟩
      simp only [layout, Draft.layout, credentialLayout, lengthEq, UInt8.ofNat_toNat,
        List.append_assoc, List.cons_append, List.nil_append]
      rfl

theorem decode_from_accepts {tx : Transaction} {actionHolds : Action → Action → Prop}
    {credentialHolds : Credential → Credential → Prop} (count : tx.actions.length ≤ maxActions)
    (actions : ∀ action ∈ tx.actions,
      (decodeTagged registry.actions).Accepts action.wire (actionHolds action))
    (credential : ∀ credential ∈ tx.credential,
      (decodeTagged registry.credentials).Accepts credential.wire (credentialHolds credential)) :
    (decodeFrom registry).Accepts tx.layout fun found => found.header = tx.header ∧
      List.Forall₂ actionHolds tx.actions found.actions ∧
      Option.Rel credentialHolds tx.credential found.credential := by
  rcases tx with ⟨⟨header, parts⟩, signed⟩
  rw [layout, Draft.layout, List.append_assoc, List.cons_append]
  apply accepts_bind (Header.decode_accepts header)
  intro found same
  subst same
  apply accepts_bind (accepts_byte (UInt8.ofNat parts.length))
  intro found same
  subst same
  apply accepts_check
  rw [count_octet_to_nat count]
  apply accepts_bind (accepts_times parts actions)
  intro found related
  cases signed with
  | none =>
      rw [credentialLayout, ← List.append_nil [_]]
      apply accepts_bind (accepts_bool false)
      intro found same
      subst same
      exact accepts_check (accepts_pure ⟨rfl, related, .none⟩)
  | some signed =>
      apply accepts_bind (accepts_bool true)
      intro found same
      subst same
      refine accepts_check (accepts_bind_pure (credential signed rfl) ?_)
      intro decoded credentialRelated
      exact ⟨rfl, related, .some credentialRelated⟩

/-- Nothing but the whole of the octets is accepted. -/
theorem of_bytes_eq_ok_iff {bytes : List UInt8} {tx : Transaction} :
    ofBytes registry bytes = .ok tx ↔ ∃ after,
      decodeFrom registry (Reader.new bytes) = (.ok tx, after) ∧
        after.fault = none ∧ after.rest = [] := by
  unfold ofBytes
  cases decoded : decodeFrom registry (Reader.new bytes) with
  | mk outcome after =>
      cases outcome with
      | error e => simp
      | ok found =>
          cases finished : after.finish with
          | ok _ =>
              have done := Reader.finish_eq_ok_iff.1 finished
              simp [finished, done]
          | error e =>
              have refused : ¬ (after.fault = none ∧ after.rest = []) := by
                rw [← Reader.finish_eq_ok_iff, finished]
                simp
              simp only [finished, reduceCtorEq, Prod.mk.injEq, Except.ok.injEq, false_iff]
              intro parts
              rcases parts with ⟨_, ⟨-, rfl⟩, done⟩
              exact refused done

theorem map_eq_of_related {β γ : Type} {view : β → γ} {sent received : List β}
    (related : List.Forall₂ (fun part found => view found = view part) sent received) :
    received.map view = sent.map view := by
  induction related with
  | nil => rfl
  | cons here _ induction => rw [List.map_cons, List.map_cons, here, induction]

theorem optional_eq_of_related {β γ : Type} {view : β → γ} {sent received : Option β}
    (related : Option.Rel (fun part found => view found = view part) sent received) :
    received.map view = sent.map view := by
  cases related with
  | some here => exact congrArg some here
  | none => rfl

end Transaction
end SignedTx
