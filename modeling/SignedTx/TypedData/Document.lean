import SignedTx.TypedData.Domain
import SignedTx.TypedData.StructHash

/-!
# Typed-data documents

A document is a schema, the name of its primary struct, a domain and a message. What a wallet signs
is the hash of two fixed octets, the domain's struct hash and the message's struct hash. A schema
may declare the domain's type itself; otherwise the type is derived from the fields that are there,
in a schema that holds nothing else.
-/

set_option autoImplicit false

namespace SignedTx.TypedData

structure Document where
  types : Schema
  primaryType : String
  domain : Domain
  message : Json.Object

namespace Document

def domainSeparator (hash : HashFunction) (document : Document) : Except Error Digest :=
  let domain := document.domain
  if document.types.declares domainType then
    hashStruct hash document.types domainType domain.message
  else hashStruct hash [(domainType, domain.fields)] domainType domain.message

def messageHash (hash : HashFunction) (document : Document) : Except Error Digest :=
  hashStruct hash document.types document.primaryType document.message

/-- The 66 octets whose hash is signed; the domain is looked at first. -/
def preimage (hash : HashFunction) (document : Document) : Except Error (Octets 66) := do
  let domain ← document.domainSeparator hash
  let message ← document.messageHash hash
  return ⟨0x19 :: 0x01 :: (domain.toList ++ message.toList), by simp⟩

def signingHash (hash : HashFunction) (document : Document) : Except Error Digest :=
  (document.preimage hash).map fun preimage => hash preimage.toList

/-! ## JSON -/

def fieldToJson (field : Field) : Json :=
  .object [("name", .string field.name), ("type", .string field.type)]

def schemaToJson (schema : Schema) : Json :=
  .object (schema.map fun (name, fields) => (name, .array (fields.map fieldToJson)))

def toJson (document : Document) : Json :=
  .object [
    ("domain", document.domain.toJson),
    ("message", .object document.message),
    ("primaryType", .string document.primaryType),
    ("types", schemaToJson document.types)]

def fieldOfJson? (json : Json) : Option Field := do
  match ← json.fields? ["name", "type"] with
  | [some (.string name), some (.string type)] => return ⟨name, type⟩
  | _ => none

def schemaOfJson? (json : Json) : Option Schema := do
  (← json.object?).mapM fun (name, fields) => do
    return (name, ← (← fields.array?).mapM fieldOfJson?)

def ofJson? (json : Json) : Option Document := do
  match ← json.fields? ["types", "primaryType", "domain", "message"] with
  | [some types, some (.string primaryType), some domain, some (.object message)] =>
    return ⟨← schemaOfJson? types, primaryType, ← Domain.ofJson? domain, message⟩
  | _ => none

end Document
end SignedTx.TypedData
