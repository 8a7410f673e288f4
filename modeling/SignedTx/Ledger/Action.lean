import SignedTx.Json.Basic
import SignedTx.Ledger.Header
import SignedTx.Presentation
import SignedTx.TypedData.Schema

/-!
# Actions, drafts and credentials

An action is what a transaction does. It is open data: any type id, any fields, a size that it
reports and that need not be the true one, and a form to show to people. A draft is a header with
actions, and a credential vouches for a draft; it sees nothing else of the transaction.
-/

set_option autoImplicit false

namespace SignedTx

structure Action where
  typeId : UInt8
  name : String
  computeUnits : Rules → UInt64
  validRange : Rules → ValidRange
  /-- The number of octets that the action says its fields take. -/
  size : Nat
  fields : List Wire.Field
  /-- The members that a wallet shows. -/
  toJson : Presentation → Except TxError Json.Object
  typedFields : List TypedData.Field

namespace Action

def payload (action : Action) : List UInt8 := Wire.encodeFields action.fields

def taggedFields (action : Action) : List Wire.Field := .byte action.typeId :: action.fields

/-- Type id and payload, by which actions are compared. -/
def wire (action : Action) : List UInt8 := action.typeId :: action.payload

end Action

/-- What is signed: a header and actions in order. -/
structure Draft where
  header : Header
  actions : List Action

structure Credential where
  typeId : UInt8
  computeUnits : Rules → UInt64
  validRange : Rules → ValidRange
  verify : Draft → Except TxError Unit
  actor : Address
  sponsor : Address
  /-- The number of octets that the credential says its fields take. -/
  size : Nat
  fields : List Wire.Field
  /-- The hash that is signed, for a credential over typed data. -/
  typedHash? : Draft → Option (Except TxError Digest) := fun _ => none

namespace Credential

def payload (credential : Credential) : List UInt8 := Wire.encodeFields credential.fields

def taggedFields (credential : Credential) : List Wire.Field :=
  .byte credential.typeId :: credential.fields

/-- Type id and payload, by which credentials are compared. -/
def wire (credential : Credential) : List UInt8 := credential.typeId :: credential.payload

end Credential

structure Signer where
  sign : Draft → Except TxError Credential
  /-- The most octets that a credential adds to a transaction. -/
  maxSize : Nat
  units : UInt64

end SignedTx
