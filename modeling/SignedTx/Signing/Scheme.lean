import SignedTx.Signing.Account
import SignedTx.Signing.Projection
import SignedTx.Signing.Recovery

/-!
# Signing schemes

Two schemes make credentials of the same kind: a signer's key and a signature. The raw scheme signs
the digest of a draft as a personal message and stores the key in full; the typed scheme signs the
draft's typed data and stores the compressed key. A credential verifies if the key that the
signature gives back is the stored one; its actor and sponsor are that key's address.
-/

set_option autoImplicit false

namespace SignedTx

/-- A key and a signature that is said to be by it. -/
structure SignedBy (crypto : Crypto) where
  signer : crypto.PublicKey
  signature : Signature

namespace SignedBy

variable {crypto : Crypto}

def same (left right : SignedBy crypto) : Bool :=
  decide (left.signer = right.signer) && decide (left.signature = right.signature)

def verify (signed : SignedBy crypto) (digest : Digest) : Except TxError Unit := do
  let key ← signed.signature.recover crypto digest
  if key = signed.signer then .ok () else .error .signerMismatch

/-- Reads a key of `length` octets and a signature; both must be there before the key is parsed. -/
def decode (crypto : Crypto) (length : Nat) : Decode (SignedBy crypto) := do
  let key ← Decode.read fun r => r.octets length
  let signature ← Decode.read fun r => r.octets 65
  Decode.check
  let signer ← Decode.ofExcept (crypto.parseKey key.toList)
  return ⟨signer, signature⟩

end SignedBy

def credentialUnits : UInt64 := 10

/-! ## The raw scheme -/

namespace RawScheme

def typeId : UInt8 := 3

/-- The octets of a full key and a signature. -/
def size : Nat := 130

def signingHash (crypto : Crypto) (draft : Draft) : Except TxError Digest :=
  draft.digest.map (personalHash crypto.keccak)

def decode (crypto : Crypto) : Decode (SignedBy crypto) := SignedBy.decode crypto 65

variable {crypto : Crypto}

def credential (signed : SignedBy crypto) : Credential where
  typeId := typeId
  computeUnits := fun _ => credentialUnits
  validRange := fun _ => .always
  verify := fun draft => do
    let digest ← signingHash crypto draft
    signed.verify digest
  actor := Address.ofKey crypto typeId signed.signer
  sponsor := Address.ofKey crypto typeId signed.signer
  size := size
  fields := [
    .bytes (crypto.ecdsa.uncompressed signed.signer).toList, .bytes signed.signature.toList]

end RawScheme

/-! ## The typed scheme -/

namespace TypedScheme

def typeId : UInt8 := 4

/-- The octets of a compressed key and a signature. -/
def size : Nat := 98

def decode (crypto : Crypto) : Decode (SignedBy crypto) := SignedBy.decode crypto 33

variable {crypto : Crypto}

def credential (projection : Projection) (signed : SignedBy crypto) : Credential where
  typeId := typeId
  computeUnits := fun _ => credentialUnits
  validRange := fun _ => .always
  verify := fun draft => do
    let digest ← projection.signingHash crypto.keccak draft
    signed.verify digest
  actor := Address.ofKey crypto typeId signed.signer
  sponsor := Address.ofKey crypto typeId signed.signer
  size := size
  fields := [
    .bytes (crypto.ecdsa.compressed signed.signer).toList, .bytes signed.signature.toList]
  typedHash? := fun draft => some (projection.signingHash crypto.keccak draft)

end TypedScheme

/-! ## Keys that sign -/

structure KeyPair (crypto : Crypto) where
  secret : crypto.SecretKey
  publicKey : crypto.PublicKey

namespace KeyPair

variable {crypto : Crypto}

def ofOctets (crypto : Crypto) (bytes : List UInt8) : Except TxError (KeyPair crypto) :=
  match crypto.ecdsa.secret? bytes with
  | none => .error (.signing "signature error")
  | some secret => (crypto.publicKey secret).map fun key => ⟨secret, key⟩

def address (pair : KeyPair crypto) (typeId : UInt8) : Address :=
  Address.ofKey crypto typeId pair.publicKey

def rawSigner (pair : KeyPair crypto) : Signer where
  sign := fun draft => do
    let digest ← RawScheme.signingHash crypto draft
    let signature ← Signature.sign crypto pair.secret digest
    return RawScheme.credential ⟨pair.publicKey, signature⟩
  maxSize := 1 + RawScheme.size
  units := credentialUnits

def typedSigner (pair : KeyPair crypto) (projection : Projection) : Signer where
  sign := fun draft => do
    let digest ← projection.signingHash crypto.keccak draft
    let signature ← Signature.sign crypto pair.secret digest
    return TypedScheme.credential projection ⟨pair.publicKey, signature⟩
  maxSize := 1 + TypedScheme.size
  units := credentialUnits

end KeyPair

end SignedTx
