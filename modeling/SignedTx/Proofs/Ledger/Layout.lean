import SignedTx.Ledger.Transaction
import SignedTx.Proofs.Outcome
import SignedTx.Proofs.Wire.Writer

/-!
# The layout of a transaction

`layout` is the wire form without a writer: header, count, tagged actions, flag, tagged credential.
If all parts report their true sizes, the writer's limit is the layout's length, so writing gives
the layout. Two transactions are the same exactly in what their layouts are made of.
-/

set_option autoImplicit false

namespace SignedTx

/-- What actions and credentials have in common on the wire. -/
class WirePart (α : Type) where
  typeId : α → UInt8
  payload : α → List UInt8
  /-- The number of octets that the part says its payload takes. -/
  size : α → Nat

instance : WirePart Action := ⟨Action.typeId, Action.payload, Action.size⟩

instance : WirePart Credential := ⟨Credential.typeId, Credential.payload, Credential.size⟩

namespace WirePart

variable {α : Type} [WirePart α]

/-- The reported size is the true one. -/
def Truthful (part : α) : Prop := size part = (payload part).length

/-- Type id and payload. -/
def wire (part : α) : List UInt8 := typeId part :: payload part

end WirePart

open WirePart (Truthful)

/-- The octets of the digest: header, count, and each action with its type id. -/
def Draft.layout (draft : Draft) : List UInt8 :=
  Wire.encodeFields draft.header.fields ++
    UInt8.ofNat draft.actions.length :: draft.actions.flatMap Action.wire

namespace Transaction

/-- The octets after the digest: a flag and, if it is set, the credential with its type id. -/
def credentialLayout : Option Credential → List UInt8
  | none => [0]
  | some credential => 1 :: credential.wire

def layout (tx : Transaction) : List UInt8 :=
  tx.toDraft.layout ++ credentialLayout tx.credential

/-- All parts report their true sizes. -/
structure Truthful (tx : Transaction) : Prop where
  actions : ∀ action ∈ tx.actions, WirePart.Truthful action
  credential : ∀ credential ∈ tx.credential, WirePart.Truthful credential

end Transaction

/-! ## Fields -/

theorem Header.length_fields (header : Header) :
    (Wire.encodeFields header.fields).length = Header.size := by
  simp [Header.fields, Wire.Field.encode, Wire.ofInt64, Wire.ofUInt64, Header.size]

theorem encode_tagged_fields (action : Action) :
    Wire.encodeFields action.taggedFields = action.wire := by
  simp [Action.taggedFields, Action.wire, Action.payload, Wire.Field.encode]

theorem Draft.fields_of_count {draft : Draft} (count : draft.actions.length ≤ maxActions) :
    ∃ fields, draft.fields = .ok fields ∧ Wire.encodeFields fields = draft.layout := by
  have few : ¬ maxActions < draft.actions.length := by omega
  refine ⟨_, by rw [Draft.fields, if_neg few], ?_⟩
  have actions : Wire.encodeFields (draft.actions.flatMap Action.taggedFields) =
      draft.actions.flatMap Action.wire := by
    induction draft.actions with
    | nil => rfl
    | cons action rest induction =>
        simp only [List.flatMap_cons, Wire.encode_fields_append, encode_tagged_fields, induction]
  rw [Wire.encode_fields_append, Wire.encodeFields_cons, actions]
  rfl

namespace Transaction

theorem encode_credential_fields (credential : Option Credential) :
    Wire.encodeFields (credentialFields credential) = credentialLayout credential := by
  cases credential with
  | none => rfl
  | some credential =>
      simp only [credentialFields, Credential.taggedFields, Wire.encodeFields_cons,
        Wire.Field.encode, credentialLayout, Credential.wire, Credential.payload]
      rfl

theorem fields_of_count {tx : Transaction} (count : tx.actions.length ≤ maxActions) :
    ∃ fields, tx.fields = .ok fields ∧ Wire.encodeFields fields = tx.layout := by
  rcases Draft.fields_of_count count with ⟨fields, drafted, encoded⟩
  refine ⟨fields ++ credentialFields tx.credential, by rw [Transaction.fields, drafted]; rfl, ?_⟩
  rw [Wire.encode_fields_append, encoded, encode_credential_fields, layout]

end Transaction

/-! ## Sizes -/

theorem Draft.length_layout {draft : Draft}
    (truthful : ∀ action ∈ draft.actions, Truthful action) : draft.layout.length = draft.size := by
  have sum : ∀ (actions : List Action) (start : Nat), (∀ action ∈ actions, Truthful action) →
      actions.foldl (fun sum action => sum + (1 + action.size)) start =
        start + (actions.flatMap Action.wire).length := by
    intro actions
    induction actions with
    | nil => simp
    | cons action rest induction =>
        intro start truthful
        have here : action.size = action.payload.length := truthful action (by simp)
        rw [List.foldl_cons, induction _ fun other member => truthful other (by simp [member])]
        simp only [List.flatMap_cons, List.length_append, Action.wire, List.length_cons]
        omega
  rw [Draft.size, sum _ _ truthful, Draft.layout, List.length_append, Header.length_fields,
    List.length_cons]
  omega

theorem Transaction.length_layout {tx : Transaction} (truthful : tx.Truthful) :
    tx.layout.length = tx.size := by
  rw [layout, List.length_append, Draft.length_layout truthful.actions, Transaction.size]
  cases found : tx.credential with
  | none => rfl
  | some credential =>
      have here : credential.size = credential.payload.length :=
        truthful.credential credential found
      simp only [credentialLayout, Credential.wire, List.length_cons, Option.map_some,
        Option.getD_some]
      omega

/-! ## Writing -/

theorem Draft.digest_eq_layout {draft : Draft} (count : draft.actions.length ≤ maxActions)
    (truthful : ∀ action ∈ draft.actions, Truthful action) : draft.digest = .ok draft.layout := by
  rcases Draft.fields_of_count count with ⟨fields, drafted, encoded⟩
  have fits : (Wire.encodeFields fields).length ≤ draft.size := by
    apply Nat.le_of_eq
    rw [encoded, Draft.length_layout truthful]
  rw [Draft.digest, drafted, ← encoded]
  change (Wire.write draft.size fields).mapError TxError.format = _
  rw [Wire.write_of_fits fits]
  rfl

namespace Transaction

theorem to_bytes_eq_layout {tx : Transaction} (count : tx.actions.length ≤ maxActions)
    (truthful : tx.Truthful) : tx.toBytes = .ok tx.layout := by
  rcases fields_of_count count with ⟨fields, listed, encoded⟩
  have fits : (Wire.encodeFields fields).length ≤ tx.size := by
    apply Nat.le_of_eq
    rw [encoded, length_layout truthful]
  rw [toBytes, listed, ← encoded]
  change (Wire.write tx.size fields).mapError TxError.format = _
  rw [Wire.write_of_fits fits]
  rfl

/-! ## Sameness -/

theorem same_iff {left right : Transaction} :
    left.same right = true ↔ left.header = right.header ∧
      left.actions.map Action.wire = right.actions.map Action.wire ∧
      left.credential.map Credential.wire = right.credential.map Credential.wire := by
  simp [same, and_assoc]

theorem same_refl (tx : Transaction) : tx.same tx = true := same_iff.2 ⟨rfl, rfl, rfl⟩

theorem draft_layout_eq_of_same {left right : Transaction} (same : left.same right = true) :
    left.toDraft.layout = right.toDraft.layout := by
  rcases same_iff.1 same with ⟨headers, actions, -⟩
  have count := congrArg List.length actions
  simp only [List.length_map] at count
  rw [Draft.layout, Draft.layout, headers, count, List.flatMap_def, List.flatMap_def, actions]

theorem layout_eq_of_same {left right : Transaction} (same : left.same right = true) :
    left.layout = right.layout := by
  rcases same_iff.1 same with ⟨-, -, credentials⟩
  have tails : credentialLayout left.credential = credentialLayout right.credential := by
    cases leftFound : left.credential <;> cases rightFound : right.credential <;>
      simp_all [credentialLayout]
  rw [layout, layout, draft_layout_eq_of_same same, tails]

end Transaction
end SignedTx
