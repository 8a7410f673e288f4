import SignedTx.Crypto.Ecdsa
import SignedTx.Ledger.Error
import SignedTx.Text.Hex

/-!
# Recoverable wallet signatures

A wallet signature is the two numbers of a signature and a recovery octet, which is 27 plus a number
from 0 to 3. Recovery gives the only key under which it can count and then verifies it under that
key, so what verification refuses is refused here too.
-/

set_option autoImplicit false

namespace SignedTx

/-- Two numbers and a recovery octet. -/
abbrev Signature := Octets 65

namespace Signature

def recoveryOffset : UInt8 := 27

def ofParts (compact : CompactSignature) (id : Fin 4) : Signature :=
  compact.append ⟨[recoveryOffset + UInt8.ofNat id.val], rfl⟩

def compact (signature : Signature) : CompactSignature := Octets.takeFirst (n := 1) 64 signature

def recoveryByte (signature : Signature) : UInt8 := (signature.toList.drop 64).headD 0

/-- The recovery number, if the octet is from 27 to 30. -/
def recoveryId? (signature : Signature) : Option (Fin 4) :=
  let byte := signature.recoveryByte
  if h : 27 ≤ byte.toNat ∧ byte.toNat < 31 then some ⟨byte.toNat - 27, by omega⟩ else none

def sign (crypto : Crypto) (key : crypto.SecretKey) (digest : Digest) :
    Except TxError Signature :=
  match crypto.ecdsa.sign? key digest with
  | some (compact, id) => .ok (ofParts compact id)
  | none => .error (.signing "signature error")

/-- The key that a signature of a hash gives back, if the signature also verifies under it. -/
def recover (crypto : Crypto) (digest : Digest) (signature : Signature) :
    Except TxError crypto.PublicKey :=
  match signature.recoveryId? with
  | none => .error (.signatureRecovery s!"invalid recovery byte {signature.recoveryByte}")
  | some id =>
    match crypto.ecdsa.recover? digest signature.compact id with
    | none => .error (.signatureRecovery "malformed signature")
    | some key =>
      if crypto.ecdsa.verify digest signature.compact key then .ok key
      else .error .invalidSignature

end Signature

namespace Crypto

def publicKey (crypto : Crypto) (key : crypto.SecretKey) : Except TxError crypto.PublicKey :=
  match crypto.ecdsa.publicKey? key with
  | some key => .ok key
  | none => .error (.invalidPublicKey "malformed public key")

/-- Reads a serialized key and refuses octets that the key would not be written as. -/
def parseKey (crypto : Crypto) (bytes : List UInt8) : Except TxError crypto.PublicKey :=
  match crypto.ecdsa.parse? bytes with
  | none => .error (.invalidPublicKey "malformed public key")
  | some key =>
    let canonical :=
      if bytes.length = 33 then (crypto.ecdsa.compressed key).toList
      else (crypto.ecdsa.uncompressed key).toList
    if canonical = bytes then .ok key else .error (.invalidPublicKey "non-canonical encoding")

end Crypto

/-! ## Personal messages -/

/-- The octets that a wallet hashes for a personal message: a fixed text, the length in decimal and
the message. -/
def personalPreimage (message : List UInt8) : List UInt8 :=
  utf8 "\x19Ethereum Signed Message:\n" ++ utf8 (String.ofList (Digits.decimal message.length)) ++
    message

def personalHash (hash : HashFunction) (message : List UInt8) : Digest :=
  hash (personalPreimage message)

end SignedTx
