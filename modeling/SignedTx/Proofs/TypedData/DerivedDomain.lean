import SignedTx.Proofs.TypedData.Domain
import SignedTx.Proofs.TypedData.SigningHash
import SignedTx.Proofs.TypedData.StructBinding

/-!
# Derived domains

A schema that does not declare the domain's type leaves it to be derived from the fields that are
there. The separator is then the hash of the domain's parts, whatever else the schema holds, and it
stays so if the derived type is declared. That a declared type of other fields gives a separator is
not claimed.
-/

set_option autoImplicit false

namespace SignedTx

namespace TypedData

namespace Document

variable {hash : HashFunction} {document : Document}

theorem domain_types_of_absent (absent : document.types.declares domainType = false) :
    document.domainTypes = [(domainType, document.domain.fields)] := by
  rw [domainTypes, absent]
  rfl

theorem fits_of_absent (absent : document.types.declares domainType = false) :
    document.domain.Fits document.domainTypes := by
  rw [domain_types_of_absent absent]
  exact Domain.fits_derived document.domain

theorem separator_of_absent (absent : document.types.declares domainType = false) :
    document.domainSeparator hash = .ok (hash (document.domain.preimage hash)) := by
  rw [domain_separator_eq]
  exact Domain.hash_struct_eq hash (fits_of_absent absent)

/-- What has to be evaluated for the hash function to separate two derived domains. -/
theorem separates_of_distinct {other : Document}
    (absent : document.types.declares domainType = false)
    (otherAbsent : other.types.declares domainType = false)
    (distinct : (((document.domain.hashedStrings hash ++
      other.domain.hashedStrings hash).dedup).map hash).Nodup) :
    Separates hash
      (HashedInStruct hash document.domainTypes document.domain.message domainType)
      (HashedInStruct hash other.domainTypes other.domain.message domainType) := by
  apply separates_of_listed distinct
  intro bytes inside
  rw [List.mem_append]
  exact inside.imp (Domain.mem_hashed_strings (fits_of_absent absent))
    (Domain.mem_hashed_strings (fits_of_absent otherAbsent))

end Document
end TypedData

open TypedData

/-- A domain whose type is left to be derived always has a separator. The other types of the schema
have no part in it, and neither has it if the type is declared as it would be derived. Domains with
one separator are equal, if the hash function separates the strings that are hashed for the two. -/
theorem derived_domain_is_binding (hash : HashFunction) (document : Document)
    (absent : document.types.declares domainType = false) :
    ∃ digest, document.domainSeparator hash = .ok digest ∧
      (∀ other : Document, other.domain = document.domain →
        other.types.declares domainType = false → other.domainSeparator hash = .ok digest) ∧
      (∀ before after : Schema, document.types = before ++ after →
        (∀ name ∈ ["string", "uint256", "address", "bytes32"],
          document.types.declares name = false) →
        { document with
          types := before ++ (domainType, document.domain.fields) :: after }.domainSeparator hash =
            .ok digest) ∧
      ∀ other : Document, other.types.declares domainType = false →
        Set.InjOn hash {bytes |
          HashedInStruct hash document.domainTypes document.domain.message domainType bytes ∨
          HashedInStruct hash other.domainTypes other.domain.message domainType bytes} →
        other.domainSeparator hash = .ok digest → other.domain = document.domain := by
  refine ⟨_, Document.separator_of_absent absent, ?_, ?_, ?_⟩
  · intro other same otherAbsent
    rw [Document.separator_of_absent otherAbsent, same]
  · intro before after split scalars
    rw [split] at absent scalars
    have fits := document.domain.fits_of_added absent scalars
    have declared : (before ++ (domainType, document.domain.fields) :: after).declares
        domainType = true := by
      rw [Schema.declares, fits.declared]
      rfl
    rw [Document.domain_separator_eq, Document.domainTypes, if_pos declared]
    exact Domain.hash_struct_eq hash fits
  · intro other otherAbsent injective separated
    rw [Document.separator_of_absent otherAbsent] at separated
    have digests := Except.ok.inj separated
    exact (Domain.eq_of_hash_eq (Document.fits_of_absent absent)
      (Document.fits_of_absent otherAbsent) injective digests.symm).symm

/-! ## A bridge -/

def namedBridge : Domain :=
  { name := some "Bridge", chainId := some (BitVec.ofNat 256 (2 ^ 256 - 1)),
    salt := some (Octets.ofNat 32 7) }

/-- The same text under another field, and the same account of no one. -/
def versionedBridge : Domain :=
  { namedBridge with
    name := none, version := some "Bridge", verifyingContract := some (Octets.zero 20) }

def bridgeDocument (domain : Domain) (types : Schema) : Document :=
  { types := types, primaryType := "Mail", domain := domain, message := [] }

def mailTypes : Schema := [("Mail", [⟨"to", "string"⟩]), ("Person", [])]

def declaredTypes : Schema :=
  [("Mail", [⟨"to", "string"⟩]),
    ("EIP712Domain", [⟨"name", "string"⟩, ⟨"chainId", "uint256"⟩, ⟨"salt", "bytes32"⟩]),
    ("Person", [])]

/-- Neither a struct under a scalar's name nor the declared type changes the separator; the text
under another field does. -/
theorem versioned_bridge_is_another_domain : ∃ digest other,
    (bridgeDocument namedBridge mailTypes).domainSeparator markedHash = .ok digest ∧
      (bridgeDocument namedBridge [("string", [])]).domainSeparator markedHash = .ok digest ∧
      (bridgeDocument namedBridge declaredTypes).domainSeparator markedHash = .ok digest ∧
      (bridgeDocument versionedBridge mailTypes).domainSeparator markedHash = .ok other ∧
      digest ≠ other := by
  obtain ⟨digest, separated, anywhere, added, binding⟩ :=
    derived_domain_is_binding markedHash (bridgeDocument namedBridge mailTypes) rfl
  obtain ⟨other, otherSeparated, -⟩ :=
    derived_domain_is_binding markedHash (bridgeDocument versionedBridge mailTypes) rfl
  have separates := @Document.separates_of_distinct markedHash
    (bridgeDocument namedBridge mailTypes) (bridgeDocument versionedBridge mailTypes) rfl rfl
    (by decide +kernel)
  have declared := added [("Mail", [⟨"to", "string"⟩])] [("Person", [])] rfl (by decide)
  refine ⟨digest, other, separated, anywhere _ rfl rfl, declared, otherSeparated, ?_⟩
  intro same
  have domains := binding (bridgeDocument versionedBridge mailTypes) rfl separates
    (same ▸ otherSeparated)
  exact absurd domains (by decide)

end SignedTx
