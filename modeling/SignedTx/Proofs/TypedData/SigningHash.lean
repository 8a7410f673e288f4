import SignedTx.Proofs.TypedData.Binding

/-!
# Signing hashes are binding

For documents over one schema the hash that is signed determines what the domain and the message
denote, if the hash function has no collision among the strings hashed for the two documents.
-/

set_option autoImplicit false

namespace SignedTx.TypedData.Document

variable {hash : HashFunction}

/-- The schema in which the domain is hashed. -/
def domainTypes (document : Document) : Schema :=
  if document.types.declares domainType then document.types
  else [(domainType, document.domain.fields)]

theorem domain_separator_eq (document : Document) :
    document.domainSeparator hash =
      hashStruct hash document.domainTypes domainType document.domain.message := by
  unfold domainSeparator domainTypes
  split <;> rfl

/-- A string that is hashed for the signing hash of a document that has one. -/
inductive Hashed (hash : HashFunction) (document : Document) : List UInt8 → Prop
  | domain {bytes : List UInt8}
      (inside : HashedInStruct hash document.domainTypes document.domain.message domainType bytes) :
      Hashed hash document bytes
  | message {bytes : List UInt8}
      (inside : HashedInStruct hash document.types document.message document.primaryType bytes) :
      Hashed hash document bytes
  | preimage {preimage : Octets 66} (found : document.preimage hash = .ok preimage) :
      Hashed hash document preimage.toList

theorem preimage_eq_ok {document : Document} {preimage : Octets 66} :
    document.preimage hash = .ok preimage ↔ ∃ domain message,
      document.domainSeparator hash = .ok domain ∧ document.messageHash hash = .ok message ∧
        preimage.toList = 0x19 :: 0x01 :: (domain.toList ++ message.toList) := by
  rw [Document.preimage]
  simp only [Outcome.bind_eq_ok_iff]
  constructor
  · intro parts
    rcases parts with ⟨domain, separated, message, hashed, same⟩
    exact ⟨domain, message, separated, hashed, by rw [← Except.ok.inj same]⟩
  · intro parts
    rcases parts with ⟨domain, message, separated, hashed, same⟩
    exact ⟨domain, separated, message, hashed, congrArg Except.ok (Octets.ext same.symm)⟩

theorem signing_hash_eq_ok {document : Document} {digest : Digest} :
    document.signingHash hash = .ok digest ↔
      ∃ preimage, document.preimage hash = .ok preimage ∧ hash preimage.toList = digest :=
  Outcome.map_eq_ok_iff

theorem same_of_signing_hash_eq {left right : Document} {digest : Digest}
    (leftHash : left.signingHash hash = .ok digest)
    (rightHash : right.signingHash hash = .ok digest)
    (separates : Separates hash (left.Hashed hash) (right.Hashed hash))
    (types : left.types = right.types) (primary : left.primaryType = right.primaryType)
    (domains : left.domainTypes = right.domainTypes) :
    SameStruct left.domainTypes domainType left.domain.message right.domain.message ∧
      SameStruct left.types left.primaryType left.message right.message := by
  obtain ⟨preimage, found, hashEq⟩ := signing_hash_eq_ok.1 leftHash
  obtain ⟨other, otherFound, otherEq⟩ := signing_hash_eq_ok.1 rightHash
  have octets := separates.eq (.preimage found) (.preimage otherFound) (hashEq.trans otherEq.symm)
  obtain ⟨domain, message, separated, hashed, preimageEq⟩ := preimage_eq_ok.1 found
  obtain ⟨otherDomain, otherMessage, otherSeparated, otherHashed, otherPreimage⟩ :=
    preimage_eq_ok.1 otherFound
  rw [preimageEq, otherPreimage, List.cons_inj_right, List.cons_inj_right] at octets
  obtain ⟨rfl, messageOctets⟩ := Octets.eq_of_prefix octets
  cases Octets.ext messageOctets
  rw [domain_separator_eq] at separated otherSeparated
  rw [messageHash] at hashed otherHashed
  constructor
  · rw [← domains] at otherSeparated
    apply same_struct_of_hash_eq separated otherSeparated
    apply separates.mono (fun _ inside => .domain inside)
    intro bytes inside
    rw [domains] at inside
    exact .domain inside
  · rw [← types, ← primary] at otherHashed
    apply same_struct_of_hash_eq hashed otherHashed
    apply separates.mono (fun _ inside => .message inside)
    intro bytes inside
    rw [types, primary] at inside
    exact .message inside

end SignedTx.TypedData.Document
