import SignedTx.Crypto.Hash

/-!
# Keyed hashing

HMAC over a hash function that works on blocks of 64 octets, and the deterministic stream of
candidates that signing draws its secret numbers from.
-/

set_option autoImplicit false

namespace SignedTx.Hmac

/-- A key as one block: long keys are hashed first. -/
def blockKey (hash : HashFunction) (key : List UInt8) : List UInt8 :=
  let key := if 64 < key.length then (hash key).toList else key
  key ++ List.replicate (64 - key.length) 0

def hmac (hash : HashFunction) (key message : List UInt8) : List UInt8 :=
  let block := blockKey hash key
  let inner := hash (block.map (· ^^^ 0x36) ++ message)
  (hash (block.map (· ^^^ 0x5c) ++ inner.toList)).toList

structure Generator where
  key : List UInt8
  value : List UInt8

namespace Generator

/-- Mixes further octets into key and value, after a separator octet. -/
def mix (hash : HashFunction) (g : Generator) (separator : UInt8) (seed : List UInt8) :
    Generator :=
  let key := hmac hash g.key (g.value ++ separator :: seed)
  ⟨key, hmac hash key g.value⟩

def ofSeed (hash : HashFunction) (seed : List UInt8) : Generator :=
  let start : Generator := ⟨List.replicate 32 0, List.replicate 32 1⟩
  (start.mix hash 0 seed).mix hash 1 seed

/-- The first value that `accept` takes, among at most `attempts` candidates. -/
def draw? {α : Type} (hash : HashFunction) (accept : List UInt8 → Option α) :
    (attempts : Nat) → Generator → Option α
  | 0, _ => none
  | attempts + 1, g =>
    let value := hmac hash g.key g.value
    match accept value with
    | some found => some found
    | none => draw? hash accept attempts (Generator.mix hash ⟨g.key, value⟩ 0 [])

end Generator
end SignedTx.Hmac
