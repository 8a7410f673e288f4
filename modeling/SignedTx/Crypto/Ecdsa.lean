import SignedTx.Crypto.Hash

/-!
# Recoverable signatures

What the rest of the library asks of a signature library: keys, their two serialized forms, signing
of a hash, recovery of the key from a signature, and verification. It is data, so a statement can
be about any such library, with what it must satisfy as hypotheses.
-/

set_option autoImplicit false

namespace SignedTx

/-- The two numbers of a signature, 32 octets each. -/
abbrev CompactSignature := Octets 64

structure Ecdsa where
  PublicKey : Type
  SecretKey : Type
  decEq : DecidableEq PublicKey
  /-- A tag octet and the first coordinate. -/
  compressed : PublicKey → Octets 33
  /-- A tag octet and both coordinates. -/
  uncompressed : PublicKey → Octets 65
  /-- Reads either form; the length says which. -/
  parse? : List UInt8 → Option PublicKey
  secret? : List UInt8 → Option SecretKey
  publicKey? : SecretKey → Option PublicKey
  /-- Signs a hash; the number says which of four keys the signature gives back. -/
  sign? : SecretKey → Digest → Option (CompactSignature × Fin 4)
  recover? : Digest → CompactSignature → Fin 4 → Option PublicKey
  verify : Digest → CompactSignature → PublicKey → Bool

attribute [instance] Ecdsa.decEq

structure Crypto where
  /-- Hashes what is signed and what addresses are derived from. -/
  keccak : HashFunction
  /-- Hashes ids and their text forms. -/
  sha : HashFunction
  ecdsa : Ecdsa

abbrev Crypto.PublicKey (crypto : Crypto) : Type := crypto.ecdsa.PublicKey

abbrev Crypto.SecretKey (crypto : Crypto) : Type := crypto.ecdsa.SecretKey

end SignedTx
