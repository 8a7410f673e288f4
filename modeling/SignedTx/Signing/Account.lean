import SignedTx.Crypto.Ecdsa
import SignedTx.Ledger.Error
import SignedTx.Address

/-!
# Accounts of keys

A key's account is the last 20 octets of the hash of its coordinates. As an address it is led by the
type id of a signing scheme and twelve zeros, so one key has a different address under each scheme.
-/

set_option autoImplicit false

namespace SignedTx

/-- Twenty octets that name the holder of a key. -/
abbrev Account := Octets 20

namespace Account

def ofKey (crypto : Crypto) (key : crypto.PublicKey) : Account :=
  let coordinates := (crypto.ecdsa.uncompressed key).toList.drop 1
  Octets.dropFirst 12 (crypto.keccak coordinates)

def toAddress (account : Account) (typeId : UInt8) : Address :=
  Address.ofPayload typeId ((Octets.zero 12).append account)

/-- The account in an address of a scheme; the scheme is looked at before the padding. -/
def ofAddress (address : Address) (typeId : UInt8) : Except TxError Account :=
  if address.typeId ≠ typeId then
    .error (.invalidAddress s!"expected address type {typeId}, got {address.typeId}")
  else
    match (address.payload.take 12).all (· = 0), Octets.ofList? 20 (address.payload.drop 12) with
    | true, some account => .ok account
    | _, _ => .error (.invalidAddress "payload is not a padded ethereum address")

def ofText (text : String) : Except TxError Account :=
  (Hex.decodeFixed 20 text).mapError fun e => .invalidAddress (text ++ ": " ++ e.message)

end Account

def Address.ofKey (crypto : Crypto) (typeId : UInt8) (key : crypto.PublicKey) : Address :=
  (Account.ofKey crypto key).toAddress typeId

end SignedTx
