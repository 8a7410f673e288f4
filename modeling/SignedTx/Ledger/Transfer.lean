import SignedTx.Ledger.Registry

/-!
# Transfers

The one stock action: it moves a value to an address. A wallet shows the address in the chain's text
form and the value with the chain's decimal places.
-/

set_option autoImplicit false

namespace SignedTx

structure Transfer where
  recipient : Address
  value : UInt64
deriving DecidableEq

namespace Transfer

def typeId : UInt8 := 0

def size : Nat := 41

def toJson (transfer : Transfer) (presentation : Presentation) : Except TxError Json.Object :=
  match presentation.formatAddress transfer.recipient with
  | .ok recipient => .ok [
      ("to", .string recipient),
      ("value", .string (presentation.formatBalance transfer.value))]
  | .error e => .error (.format e)

def toAction (transfer : Transfer) : Action where
  typeId := typeId
  name := "Transfer"
  computeUnits := fun _ => 1
  validRange := fun _ => .always
  size := size
  fields := [.address transfer.recipient, .uint64 transfer.value]
  toJson := transfer.toJson
  typedFields := [⟨"to", "string"⟩, ⟨"value", "string"⟩]

def decode : Decode Transfer := do
  let recipient ← Decode.read Wire.Reader.address
  let value ← Decode.read Wire.Reader.uint64
  Decode.check
  return ⟨recipient, value⟩

def stringMember (json : Json.Object) (name : String) : Except TxError String :=
  match (json.get? name).bind Json.string? with
  | some text => .ok text
  | none => .error (.invalidField ("missing string field '" ++ name ++ "'"))

/-- Reads back what a wallet shows; the address is looked at first. -/
def ofJson (json : Json.Object) (presentation : Presentation) : Except TxError Transfer := do
  let address ← stringMember json "to"
  let recipient ← (presentation.parseAddress address).mapError TxError.format
  let balance ← stringMember json "value"
  let value ← (presentation.parseBalance balance).mapError TxError.format
  return ⟨recipient, value⟩

end Transfer

def Registry.addStockActions (registry : Registry) : Except TxError Registry := do
  let actions ← registry.actions.register Transfer.typeId do
    return (← Transfer.decode).toAction
  return { registry with actions }

end SignedTx
