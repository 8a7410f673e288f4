import SignedTx.TypedData.Scalar
import SignedTx.TypedData.Schema

/-!
# Struct hashes

A struct value is hashed as the hash of its type string followed by one word for each declared
field. An array's word is the hash of its elements' words, a nested struct's word is its own struct
hash. Every declared field must be there; members that are not declared count for nothing. The
recursion is over the value, so it ends on cyclic schemas too.
-/

set_option autoImplicit false

namespace SignedTx.TypedData

/-- What a value gives at each field type. -/
abbrev Encoder := String → Except Error Digest

/-- The words of declared fields, from the encoders of a value's members. -/
def fieldWords (name : String) (members : List (String × Encoder)) :
    List Field → Except Error (List UInt8)
  | [] => .ok []
  | field :: rest =>
    match members.lookup field.name with
    | none => .error (.missingField name field.name)
    | some encoder => do
      let word ← encoder field.type
      let words ← fieldWords name members rest
      return word.toList ++ words

def structWords (schema : Schema) (name : String) (members : List (String × Encoder)) :
    Except Error (List UInt8) :=
  match schema.fields? name with
  | some fields => fieldWords name members fields
  | none => .error (.unknownType name)

def typeHash (hash : HashFunction) (schema : Schema) (name : String) : Except Error Digest :=
  (schema.encodeType name).map fun text => hash (utf8 text)

/-- The hash of the type hash and the fields' words; the type is looked at first. -/
def structHash (hash : HashFunction) (schema : Schema) (name : String)
    (members : List (String × Encoder)) : Except Error Digest := do
  let type ← typeHash hash schema name
  let words ← structWords schema name members
  return hash (type.toList ++ words)

def checkLength (type : String) (expected : Option Nat) (actual : Nat) : Except Error Unit :=
  match expected with
  | none => .ok ()
  | some expected =>
    if actual = expected then .ok () else .error (.arrayLength type expected actual)

mutual

def encodeValue (hash : HashFunction) (schema : Schema) :
    Json → (type : String) → Except Error Digest
  | json, type =>
    match shape type with
    | .error e => .error e
    | .ok (.array element length) =>
      match json with
      | .array items => do
        checkLength type length items.length
        let words ← encodeItems hash schema items element
        return hash words
      | _ => .error (.invalidValue type "expected an array")
    | .ok .single =>
      if schema.declares type then
        match json with
        | .object members => structHash hash schema type (encodeMembers hash schema members)
        | _ => .error (.invalidValue type "expected an object")
      else
        match Primitive.ofName? type with
        | some primitive => primitive.encode hash type json
        | none => .error (.unknownType type)

def encodeItems (hash : HashFunction) (schema : Schema) :
    List Json → (element : String) → Except Error (List UInt8)
  | [], _ => .ok []
  | item :: rest, element => do
    let word ← encodeValue hash schema item element
    let words ← encodeItems hash schema rest element
    return word.toList ++ words

def encodeMembers (hash : HashFunction) (schema : Schema) :
    List (String × Json) → List (String × Encoder)
  | [] => []
  | (key, value) :: rest =>
    (key, fun type => encodeValue hash schema value type) :: encodeMembers hash schema rest

end

def encodeData (hash : HashFunction) (schema : Schema) (name : String) (message : Json.Object) :
    Except Error (List UInt8) :=
  structWords schema name (encodeMembers hash schema message)

def hashStruct (hash : HashFunction) (schema : Schema) (name : String) (message : Json.Object) :
    Except Error Digest :=
  structHash hash schema name (encodeMembers hash schema message)

theorem lookup_encodeMembers (hash : HashFunction) (schema : Schema) (members : Json.Object)
    (key : String) :
    (encodeMembers hash schema members).lookup key =
      (Json.Object.get? members key).map (encodeValue hash schema) := by
  induction members with
  | nil => rfl
  | cons member rest ih =>
    obtain ⟨name, value⟩ := member
    simp only [Json.Object.get?] at ih ⊢
    rw [encodeMembers, List.lookup_cons, List.lookup_cons, ih]
    split <;> rfl

end SignedTx.TypedData
