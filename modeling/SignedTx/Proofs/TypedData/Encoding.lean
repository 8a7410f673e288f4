import Mathlib.Data.List.Forall2
import SignedTx.Proofs.Text.Hex
import SignedTx.Proofs.TypedData.Primitive
import SignedTx.TypedData.Domain
import SignedTx.TypedData.StructHash

/-!
# When a value has a word

A value is encoded by the shape of its type: as an array, as a declared struct, or as a primitive.
Each case is one equivalence, and so is one more field of a struct and one more element of an array.
-/

set_option autoImplicit false

namespace SignedTx.TypedData

variable {hash : HashFunction} {schema : Schema}

/-- The definition without its recursion: the elements of an array and the members of a struct have
functions of their own. -/
theorem encode_value_eq (json : Json) (type : String) :
    encodeValue hash schema json type =
      match shape type with
      | .error e => .error e
      | .ok (.array element length) =>
        match json with
        | .array items => do
          checkLength type length items.length
          let words ← encodeItems hash schema items element
          return hash words
        | _ => .error (.invalidValue type "expected an array")
      | .ok .single =>
        if schema.declares type then
          match json with
          | .object members => structHash hash schema type (encodeMembers hash schema members)
          | _ => .error (.invalidValue type "expected an object")
        else
          match Primitive.ofName? type with
          | some primitive => primitive.encode hash type json
          | none => .error (.unknownType type) := by
  cases json <;> rfl

theorem encode_value_of_shape_error {json : Json} {type : String} {e : Error}
    (malformed : shape type = .error e) : encodeValue hash schema json type = .error e := by
  rw [encode_value_eq, malformed]

theorem encode_value_eq_ok_of_array
    {json : Json} {type element : String} {length : Option Nat} {word : Digest}
    (array : shape type = .ok (.array element length)) :
    encodeValue hash schema json type = .ok word ↔ ∃ items words, json = .array items ∧
      checkLength type length items.length = .ok () ∧
      encodeItems hash schema items element = .ok words ∧ word = hash words := by
  cases json with
  | array items =>
      simp only [encode_value_eq, array, Outcome.bind_eq_ok_iff, Json.array.injEq]
      constructor
      · intro parts
        rcases parts with ⟨_, checked, words, encoded, same⟩
        exact ⟨items, words, rfl, checked, encoded, (Except.ok.inj same).symm⟩
      · intro parts
        rcases parts with ⟨_, words, rfl, checked, encoded, rfl⟩
        exact ⟨(), checked, words, encoded, rfl⟩
  | _ => simp [encode_value_eq, array]

theorem encode_value_eq_ok_of_struct {json : Json} {type : String} {word : Digest}
    (single : shape type = .ok .single) (declared : schema.declares type = true) :
    encodeValue hash schema json type = .ok word ↔
      ∃ members, json = .object members ∧ hashStruct hash schema type members = .ok word := by
  cases json with
  | object members => simp [encode_value_eq, single, declared, hashStruct]
  | _ => simp [encode_value_eq, single, declared]

theorem encode_value_of_primitive {json : Json} {type : String} {primitive : Primitive}
    (single : shape type = .ok .single) (undeclared : schema.declares type = false)
    (named : Primitive.ofName? type = some primitive) :
    encodeValue hash schema json type = primitive.encode hash type json := by
  simp [encode_value_eq, single, undeclared, named]

theorem encode_value_eq_ok_of_primitive {json : Json} {type : String} {word : Digest}
    (single : shape type = .ok .single) (undeclared : schema.declares type = false) :
    encodeValue hash schema json type = .ok word ↔
      ∃ primitive, Primitive.ofName? type = some primitive ∧
        primitive.encode hash type json = .ok word := by
  cases named : Primitive.ofName? type with
  | none => simp [encode_value_eq, single, undeclared, named]
  | some primitive =>
      rw [encode_value_of_primitive single undeclared named]
      simp

theorem encode_items_cons_eq_ok {item : Json} {rest : List Json} {element : String}
    {words : List UInt8} :
    encodeItems hash schema (item :: rest) element = .ok words ↔ ∃ word later,
      encodeValue hash schema item element = .ok word ∧
        encodeItems hash schema rest element = .ok later ∧ words = word.toList ++ later := by
  rw [encodeItems]
  simp only [Outcome.bind_eq_ok_iff]
  constructor
  · intro parts
    rcases parts with ⟨word, here, later, there, same⟩
    exact ⟨word, later, here, there, (Except.ok.inj same).symm⟩
  · intro parts
    rcases parts with ⟨word, later, here, there, rfl⟩
    exact ⟨word, here, later, there, rfl⟩

theorem field_words_cons_eq_ok {name : String} {members : Json.Object} {field : Field}
    {rest : List Field} {words : List UInt8} :
    fieldWords name (encodeMembers hash schema members) (field :: rest) = .ok words ↔
      ∃ value word later, members.get? field.name = some value ∧
        encodeValue hash schema value field.type = .ok word ∧
        fieldWords name (encodeMembers hash schema members) rest = .ok later ∧
        words = word.toList ++ later := by
  rw [fieldWords, lookup_encodeMembers]
  cases members.get? field.name with
  | none => simp
  | some value =>
      simp only [Option.map_some, Outcome.bind_eq_ok_iff, Option.some.injEq]
      constructor
      · intro parts
        rcases parts with ⟨word, here, later, there, same⟩
        exact ⟨value, word, later, rfl, here, there, (Except.ok.inj same).symm⟩
      · intro parts
        rcases parts with ⟨_, word, later, rfl, here, there, rfl⟩
        exact ⟨word, here, later, there, rfl⟩

theorem hash_struct_eq_ok {name : String} {members : Json.Object} {digest : Digest} :
    hashStruct hash schema name members = .ok digest ↔ ∃ type words,
      typeHash hash schema name = .ok type ∧ encodeData hash schema name members = .ok words ∧
        digest = hash (type.toList ++ words) := by
  rw [hashStruct, structHash]
  simp only [Outcome.bind_eq_ok_iff, encodeData]
  constructor
  · intro parts
    rcases parts with ⟨type, typed, words, encoded, same⟩
    exact ⟨type, words, typed, encoded, (Except.ok.inj same).symm⟩
  · intro parts
    rcases parts with ⟨type, words, typed, encoded, rfl⟩
    exact ⟨type, typed, words, encoded, rfl⟩

theorem encode_data_eq_ok {name : String} {members : Json.Object} {words : List UInt8} :
    encodeData hash schema name members = .ok words ↔ ∃ fields, schema.fields? name = some fields ∧
      fieldWords name (encodeMembers hash schema members) fields = .ok words := by
  rw [encodeData, structWords]
  cases schema.fields? name with
  | none => simp
  | some fields => simp

/-! ## Values inside of values -/

theorem size_of_item_lt {items : List Json} {item : Json} (member : item ∈ items) :
    sizeOf item < sizeOf (Json.array items) := by
  have inList := List.sizeOf_lt_of_mem member
  simp only [Json.array.sizeOf_spec]
  omega

theorem size_of_get_lt {members : Json.Object} {key : String} {value : Json}
    (found : members.get? key = some value) : sizeOf value < sizeOf (Json.object members) := by
  obtain ⟨before, after, membersEq, -⟩ := List.lookup_eq_some_iff.mp found
  have member : (key, value) ∈ members := by simp [membersEq]
  have inList := List.sizeOf_lt_of_mem member
  simp only [Prod.mk.sizeOf_spec, Json.object.sizeOf_spec] at inList ⊢
  omega

/-! ## One word for each -/

/-- The elements' words in their order. -/
theorem encode_items_eq_ok {items : List Json} {element : String} {output : List UInt8} :
    encodeItems hash schema items element = .ok output ↔ ∃ words, List.Forall₂
      (fun item word => encodeValue hash schema item element = .ok word) items words ∧
      output = words.flatMap Octets.toList := by
  induction items generalizing output with
  | nil => simp [encodeItems, eq_comm]
  | cons item rest induction =>
      rw [encode_items_cons_eq_ok]
      constructor
      · intro parts
        obtain ⟨word, later, here, there, rfl⟩ := parts
        obtain ⟨words, encoded, rfl⟩ := induction.mp there
        exact ⟨word :: words, .cons here encoded, rfl⟩
      · intro parts
        obtain ⟨words, encoded, rfl⟩ := parts
        cases encoded with
        | cons here there => exact ⟨_, _, here, induction.mpr ⟨_, there, rfl⟩, rfl⟩

/-- The declared fields' words in their order. -/
theorem encode_data_eq_ok_of_fields {name : String} {members : Json.Object} {fields : List Field}
    {output : List UInt8} (declared : schema.fields? name = some fields) :
    encodeData hash schema name members = .ok output ↔ ∃ words, List.Forall₂
      (fun field word => ∃ value, members.get? field.name = some value ∧
        encodeValue hash schema value field.type = .ok word) fields words ∧
      output = words.flatMap Octets.toList := by
  rw [encode_data_eq_ok, declared]
  simp only [Option.some.injEq, exists_eq_left']
  clear declared
  induction fields generalizing output with
  | nil => simp [fieldWords, eq_comm]
  | cons field rest induction =>
      rw [field_words_cons_eq_ok]
      constructor
      · intro parts
        obtain ⟨value, word, later, found, here, there, rfl⟩ := parts
        obtain ⟨words, encoded, rfl⟩ := induction.mp there
        exact ⟨word :: words, .cons ⟨value, found, here⟩ encoded, rfl⟩
      · intro parts
        obtain ⟨words, encoded, rfl⟩ := parts
        cases encoded with
        | cons here there =>
            obtain ⟨value, found, encoded⟩ := here
            exact ⟨value, _, _, found, encoded, induction.mpr ⟨_, there, rfl⟩, rfl⟩

/-! ## Known words -/

theorem encode_data_of_words {name : String} {members : Json.Object} {fields : List Field}
    {words : List Digest} (declared : schema.fields? name = some fields)
    (encoded : List.Forall₂ (fun field word => ∃ value, members.get? field.name = some value ∧
      encodeValue hash schema value field.type = .ok word) fields words) :
    encodeData hash schema name members = .ok (words.flatMap Octets.toList) :=
  (encode_data_eq_ok_of_fields declared).mpr ⟨words, encoded, rfl⟩

theorem hash_struct_of_words {name text : String} {members : Json.Object} {words : List UInt8}
    (typed : schema.encodeType name = .ok text)
    (encoded : encodeData hash schema name members = .ok words) :
    hashStruct hash schema name members = .ok (hash ((hash (utf8 text)).toList ++ words)) := by
  refine hash_struct_eq_ok.2 ⟨hash (utf8 text), words, ?_, encoded, rfl⟩
  rw [typeHash, typed]
  rfl

theorem encode_value_of_string (undeclared : schema.declares "string" = false) (text : String) :
    encodeValue hash schema (.string text) "string" = .ok (hash (utf8 text)) :=
  (encode_value_eq_ok_of_primitive rfl undeclared).mpr ⟨.string, rfl, rfl⟩

theorem encode_value_of_number (undeclared : schema.declares "uint256" = false)
    (number : Word256) :
    encodeValue hash schema (.string (String.ofList (Digits.decimal number.toNat))) "uint256" =
      .ok (wordOfInt number.toNat) :=
  (encode_value_eq_ok_of_primitive rfl undeclared).mpr
    ⟨.uint 256, rfl, Primitive.encode_uint_of_decimal number.isLt⟩

theorem encode_value_of_account (undeclared : schema.declares "address" = false)
    (account : Octets 20) :
    encodeValue hash schema (.string (Hex.encodeMarked account.toList)) "address" =
      .ok ((Octets.zero 12).append account) :=
  (encode_value_eq_ok_of_primitive rfl undeclared).mpr
    ⟨.address, rfl, Primitive.encode_address_eq_ok.2
      ⟨_, account, rfl, Hex.decode_fixed_encode_marked account, rfl⟩⟩

/-- A whole word of octets is its own word. -/
theorem encode_value_of_word (undeclared : schema.declares "bytes32" = false) (word : Octets 32) :
    encodeValue hash schema (.string (Hex.encodeMarked word.toList)) "bytes32" = .ok word := by
  have octets : hexOctets "bytes32" (.string (Hex.encodeMarked word.toList)) = .ok word.toList := by
    simp only [hexOctets, Json.string?, Hex.decode_marked_encode_marked]
    rfl
  have whole : word = Octets.padRight 32 word.toList := by
    apply Octets.ext
    have all : word.toList.take 32 = word.toList := List.take_of_length_le (by simp)
    simp [Octets.padRight, all]
  exact (encode_value_eq_ok_of_primitive rfl undeclared).mpr
    ⟨.fixedBytes 32, rfl, Primitive.encode_fixed_bytes_eq_ok.2
      ⟨word.toList, octets, by simp, whole⟩⟩

end SignedTx.TypedData
