import Mathlib.Algebra.Order.Ring.Int
import Mathlib.Data.List.Dedup
import Mathlib.Data.List.Nodup
import Mathlib.Data.Set.Function
import SignedTx.Proofs.Text.Hex
import SignedTx.Proofs.TypedData.Encoding
import SignedTx.Proofs.TypedData.Primitive
import SignedTx.TypedData.Document

/-!
# Struct hashes are binding

Two values with one word at one type denote the same, if the hash function has no collision among
the strings that are hashed while the two are encoded. Those strings are given by the steps that
hash them; nothing is asked of the hash function on any other string. The induction is over the first
value, with the second value and the type free.
-/

set_option autoImplicit false

namespace SignedTx.TypedData

/-! ## What is hashed -/

/-- A string that is hashed for the word of a primitive value. -/
inductive Primitive.Hashes (type : String) (json : Json) : Primitive → List UInt8 → Prop
  | text {text : String} (found : json.string? = some text) : Hashes type json .string (utf8 text)
  | octets {bytes : List UInt8} (found : hexOctets type json = .ok bytes) :
      Hashes type json .bytes bytes

mutual

/-- A string that is hashed while a value that has a word is encoded at a field type. -/
inductive HashedInValue (hash : HashFunction) (schema : Schema) :
    Json → (type : String) → List UInt8 → Prop
  | primitive {json : Json} {type : String} {primitive : Primitive} {bytes : List UInt8}
      (single : shape type = .ok .single) (undeclared : schema.declares type = false)
      (named : Primitive.ofName? type = some primitive)
      (inside : primitive.Hashes type json bytes) : HashedInValue hash schema json type bytes
  | element {items : List Json} {type element : String} {length : Option Nat} {item : Json}
      {bytes : List UInt8} (array : shape type = .ok (.array element length))
      (member : item ∈ items) (inside : HashedInValue hash schema item element bytes) :
      HashedInValue hash schema (.array items) type bytes
  | elements {items : List Json} {type element : String} {length : Option Nat}
      {words : List UInt8} (array : shape type = .ok (.array element length))
      (encoded : encodeItems hash schema items element = .ok words) :
      HashedInValue hash schema (.array items) type words
  | struct {members : Json.Object} {type : String} {bytes : List UInt8}
      (single : shape type = .ok .single) (declared : schema.declares type = true)
      (inside : HashedInStruct hash schema members type bytes) :
      HashedInValue hash schema (.object members) type bytes

/-- A string that is hashed for the struct hash of a message that has one. -/
inductive HashedInStruct (hash : HashFunction) (schema : Schema) :
    Json.Object → (name : String) → List UInt8 → Prop
  | type {members : Json.Object} {name text : String} (found : schema.encodeType name = .ok text) :
      HashedInStruct hash schema members name (utf8 text)
  | member {members : Json.Object} {name : String} {fields : List Field} {field : Field}
      {value : Json} {bytes : List UInt8} (declared : schema.fields? name = some fields)
      (listed : field ∈ fields) (found : members.get? field.name = some value)
      (inside : HashedInValue hash schema value field.type bytes) :
      HashedInStruct hash schema members name bytes
  | words {members : Json.Object} {name : String} {type : Digest} {words : List UInt8}
      (typed : typeHash hash schema name = .ok type)
      (encoded : encodeData hash schema name members = .ok words) :
      HashedInStruct hash schema members name (type.toList ++ words)

end

/-- No two different strings among those of two kinds have one hash. -/
def Separates (hash : HashFunction) (left right : List UInt8 → Prop) : Prop :=
  Set.InjOn hash {bytes | left bytes ∨ right bytes}

theorem Separates.eq {hash : HashFunction} {left right : List UInt8 → Prop}
    (separates : Separates hash left right) {bytes other : List UInt8} (inLeft : left bytes)
    (inRight : right other) (same : hash bytes = hash other) : bytes = other :=
  separates (.inl inLeft) (.inr inRight) same

theorem Separates.mono {hash : HashFunction} {left right innerLeft innerRight : List UInt8 → Prop}
    (separates : Separates hash left right) (leftInside : ∀ bytes, innerLeft bytes → left bytes)
    (rightInside : ∀ bytes, innerRight bytes → right bytes) :
    Separates hash innerLeft innerRight := by
  apply Set.InjOn.mono ?_ separates
  intro bytes inside
  exact inside.imp (leftInside bytes) (rightInside bytes)

/-- Listed strings whose hashes are listed once each are kept apart. -/
theorem separates_of_listed {hash : HashFunction} {left right : List UInt8 → Prop}
    {strings : List (List UInt8)} (distinct : (strings.dedup.map hash).Nodup)
    (listed : ∀ bytes, left bytes ∨ right bytes → bytes ∈ strings) :
    Separates hash left right := by
  intro bytes inBytes other inOther same
  exact List.inj_on_of_nodup_map distinct (List.mem_dedup.mpr (listed bytes inBytes))
    (List.mem_dedup.mpr (listed other inOther)) same

theorem HashedInValue.primitive_hashes {hash : HashFunction} {schema : Schema} {json : Json}
    {type : String} {primitive : Primitive} {bytes : List UInt8}
    (hashed : HashedInValue hash schema json type bytes) (single : shape type = .ok .single)
    (undeclared : schema.declares type = false)
    (named : Primitive.ofName? type = some primitive) : primitive.Hashes type json bytes := by
  cases hashed with
  | primitive _ _ otherNamed inside =>
      cases named.symm.trans otherNamed
      exact inside
  | element array => cases single.symm.trans array
  | elements array => cases single.symm.trans array
  | struct _ declared =>
      rw [undeclared] at declared
      cases declared

theorem HashedInValue.eq_of_string {hash : HashFunction} {schema : Schema} {text : String}
    {bytes : List UInt8} (hashed : HashedInValue hash schema (.string text) "string" bytes)
    (undeclared : schema.declares "string" = false) : bytes = utf8 text := by
  have inside : Primitive.string.Hashes "string" (.string text) bytes :=
    hashed.primitive_hashes rfl undeclared rfl
  cases inside with
  | text found => rw [← Option.some.inj found]

theorem HashedInValue.array_hashes {hash : HashFunction} {schema : Schema} {items : List Json}
    {type element : String} {length : Option Nat} {words bytes : List UInt8}
    (hashed : HashedInValue hash schema (.array items) type bytes)
    (array : shape type = .ok (.array element length))
    (encoded : encodeItems hash schema items element = .ok words) :
    bytes = words ∨ ∃ item ∈ items, HashedInValue hash schema item element bytes := by
  cases hashed with
  | primitive single => cases single.symm.trans array
  | element otherArray member inside =>
      cases array.symm.trans otherArray
      exact .inr ⟨_, member, inside⟩
  | elements otherArray otherEncoded =>
      cases array.symm.trans otherArray
      cases encoded.symm.trans otherEncoded
      exact .inl rfl

theorem HashedInValue.hashed_in_struct {hash : HashFunction} {schema : Schema}
    {members : Json.Object} {type : String} {bytes : List UInt8}
    (hashed : HashedInValue hash schema (.object members) type bytes)
    (declared : schema.declares type = true) : HashedInStruct hash schema members type bytes := by
  cases hashed with
  | primitive _ undeclared =>
      rw [declared] at undeclared
      cases undeclared
  | struct _ _ inside => exact inside

theorem HashedInStruct.cases_of_words {hash : HashFunction} {schema : Schema}
    {members : Json.Object} {name text : String} {fields : List Field} {words bytes : List UInt8}
    (hashed : HashedInStruct hash schema members name bytes)
    (typed : schema.encodeType name = .ok text) (declared : schema.fields? name = some fields)
    (encoded : encodeData hash schema name members = .ok words) :
    bytes = utf8 text ∨ bytes = (hash (utf8 text)).toList ++ words ∨
      ∃ field ∈ fields, ∃ value, members.get? field.name = some value ∧
        HashedInValue hash schema value field.type bytes := by
  cases hashed with
  | type found =>
      cases typed.symm.trans found
      exact .inl rfl
  | member otherDeclared listed found inside =>
      cases declared.symm.trans otherDeclared
      exact .inr (.inr ⟨_, listed, _, found, inside⟩)
  | words otherTyped otherEncoded =>
      cases encoded.symm.trans otherEncoded
      rw [typeHash, typed] at otherTyped
      cases otherTyped
      exact .inr (.inl rfl)

/-! ## Denoting the same -/

/-- Two values denote the same value of a primitive type: the same text, the same octets, the same
octets after padding, the same account, truth value or integer. -/
def Primitive.Same (type : String) (left right : Json) : Primitive → Prop
  | .string => ∃ text, left.string? = some text ∧ right.string? = some text
  | .bytes => ∃ bytes, hexOctets type left = .ok bytes ∧ hexOctets type right = .ok bytes
  | .fixedBytes length => ∃ bytes other, hexOctets type left = .ok bytes ∧
      hexOctets type right = .ok other ∧ bytes.length ≤ length ∧ other.length ≤ length ∧
      Octets.padRight 32 bytes = Octets.padRight 32 other
  | .address => ∃ text other account, left.string? = some text ∧ right.string? = some other ∧
      Hex.decodeFixed 20 text = .ok account ∧ Hex.decodeFixed 20 other = .ok account
  | .bool => ∃ value, left.bool? = some value ∧ right.bool? = some value
  | .uint _ | .int _ => ∃ value, integer? left = some value ∧ integer? right = some value

mutual

/-- Two values denote the same value of a type: at primitives as said there, for arrays element by
element, for structs at every declared field. -/
inductive SameValue (schema : Schema) : (type : String) → Json → Json → Prop
  | primitive {type : String} {left right : Json} {primitive : Primitive}
      (single : shape type = .ok .single) (undeclared : schema.declares type = false)
      (named : Primitive.ofName? type = some primitive) (same : primitive.Same type left right) :
      SameValue schema type left right
  | array {type element : String} {length : Option Nat} {left right : List Json}
      (array : shape type = .ok (.array element length))
      (same : SameItems schema element left right) :
      SameValue schema type (.array left) (.array right)
  | struct {type : String} {fields : List Field} {left right : Json.Object}
      (single : shape type = .ok .single) (declared : schema.fields? type = some fields)
      (same : SameFields schema fields left right) :
      SameValue schema type (.object left) (.object right)

inductive SameItems (schema : Schema) : (element : String) → List Json → List Json → Prop
  | nil {element : String} : SameItems schema element [] []
  | cons {element : String} {item other : Json} {rest others : List Json}
      (first : SameValue schema element item other) (later : SameItems schema element rest others) :
      SameItems schema element (item :: rest) (other :: others)

/-- Two messages denote the same at all of the given fields. -/
inductive SameFields (schema : Schema) : List Field → Json.Object → Json.Object → Prop
  | nil {left right : Json.Object} : SameFields schema [] left right
  | cons {field : Field} {rest : List Field} {left right : Json.Object} {value other : Json}
      (inLeft : left.get? field.name = some value) (inRight : right.get? field.name = some other)
      (first : SameValue schema field.type value other)
      (later : SameFields schema rest left right) :
      SameFields schema (field :: rest) left right

end

/-- Two messages denote the same value of a struct. -/
def SameStruct (schema : Schema) (name : String) (left right : Json.Object) : Prop :=
  ∃ fields, schema.fields? name = some fields ∧ SameFields schema fields left right

theorem SameFields.of_mem {schema : Schema} {fields : List Field} {left right : Json.Object}
    (same : SameFields schema fields left right) {field : Field} (listed : field ∈ fields) :
    ∃ value other, left.get? field.name = some value ∧ right.get? field.name = some other ∧
      SameValue schema field.type value other := by
  induction fields with
  | nil => cases listed
  | cons first rest induction =>
      cases same with
      | cons inLeft inRight here later =>
          rcases List.mem_cons.mp listed with rfl | deeper
          · exact ⟨_, _, inLeft, inRight, here⟩
          · exact induction later deeper

theorem SameValue.primitive_same {schema : Schema} {type : String} {primitive : Primitive}
    {left right : Json} (same : SameValue schema type left right)
    (single : shape type = .ok .single) (undeclared : schema.declares type = false)
    (named : Primitive.ofName? type = some primitive) : primitive.Same type left right := by
  cases same with
  | primitive _ _ otherNamed same =>
      cases named.symm.trans otherNamed
      exact same
  | array array => cases single.symm.trans array
  | struct _ declared =>
      rw [Schema.declares, declared] at undeclared
      cases undeclared

theorem SameValue.struct_same {schema : Schema} {type : String} {fields : List Field}
    {left right : Json.Object} (same : SameValue schema type (.object left) (.object right))
    (declared : schema.fields? type = some fields) : SameFields schema fields left right := by
  cases same with
  | primitive _ undeclared =>
      rw [Schema.declares, declared] at undeclared
      cases undeclared
  | struct _ otherDeclared same =>
      cases declared.symm.trans otherDeclared
      exact same

theorem SameValue.items_same {schema : Schema} {type element : String} {length : Option Nat}
    {left right : List Json} (same : SameValue schema type (.array left) (.array right))
    (array : shape type = .ok (.array element length)) : SameItems schema element left right := by
  cases same with
  | primitive single => cases single.symm.trans array
  | array otherArray same =>
      cases array.symm.trans otherArray
      exact same

/-- At a text field both messages hold the same text. -/
theorem SameFields.text_eq {schema : Schema} {fields : List Field} {left right : Json.Object}
    {text other : String} (same : SameFields schema fields left right) (name : String)
    (listed : ⟨name, "string"⟩ ∈ fields) (undeclared : schema.declares "string" = false)
    (inLeft : left.get? name = some (.string text))
    (inRight : right.get? name = some (.string other)) : text = other := by
  obtain ⟨value, otherValue, found, otherFound, sameValue⟩ := same.of_mem listed
  cases found.symm.trans inLeft
  cases otherFound.symm.trans inRight
  change SameValue schema "string" (.string text) (.string other) at sameValue
  have sameText : Primitive.string.Same "string" (.string text) (.string other) :=
    sameValue.primitive_same rfl undeclared rfl
  obtain ⟨common, isCommon, otherCommon⟩ := sameText
  exact (Option.some.inj isCommon).trans (Option.some.inj otherCommon).symm

/-- At a number field both messages hold the same number, if both hold decimal text. -/
theorem SameFields.number_eq {schema : Schema} {fields : List Field} {left right : Json.Object}
    {number other : Word256} (same : SameFields schema fields left right) (name : String)
    (listed : ⟨name, "uint256"⟩ ∈ fields) (undeclared : schema.declares "uint256" = false)
    (inLeft : left.get? name = some (.string (String.ofList (Digits.decimal number.toNat))))
    (inRight : right.get? name = some (.string (String.ofList (Digits.decimal other.toNat)))) :
    number = other := by
  obtain ⟨value, otherValue, found, otherFound, sameValue⟩ := same.of_mem listed
  cases found.symm.trans inLeft
  cases otherFound.symm.trans inRight
  change SameValue schema "uint256" _ _ at sameValue
  have sameNumber : (Primitive.uint 256).Same "uint256" _ _ :=
    sameValue.primitive_same rfl undeclared rfl
  obtain ⟨common, isCommon, otherCommon⟩ := sameNumber
  rw [integer_of_decimal (word_count_eq ▸ number.isLt)] at isCommon
  rw [integer_of_decimal (word_count_eq ▸ other.isLt)] at otherCommon
  have numbers := (Option.some.inj isCommon).trans (Option.some.inj otherCommon).symm
  exact BitVec.eq_of_toNat_eq (by exact_mod_cast numbers)

/-! ## Binding -/

variable {hash : HashFunction} {schema : Schema}

/-- A primitive value is known, up to its spelling, from its word. -/
theorem Primitive.same_of_encode_eq {primitive : Primitive} {type : String} {left right : Json}
    {word : Digest} (named : ofName? type = some primitive)
    (leftWord : primitive.encode hash type left = .ok word)
    (rightWord : primitive.encode hash type right = .ok word)
    (separates : Separates hash (primitive.Hashes type left) (primitive.Hashes type right)) :
    primitive.Same type left right := by
  cases primitive with
  | address =>
      obtain ⟨text, account, found, decoded, wordEq⟩ := encode_address_eq_ok.mp leftWord
      obtain ⟨other, otherAccount, otherFound, otherDecoded, otherEq⟩ :=
        encode_address_eq_ok.mp rightWord
      have octets := congrArg Octets.toList (wordEq.symm.trans otherEq)
      rw [Octets.toList_append, Octets.toList_append] at octets
      have accounts : account = otherAccount := Octets.ext (List.append_cancel_left octets)
      exact ⟨text, other, account, found, otherFound, decoded, accounts ▸ otherDecoded⟩
  | bool =>
      obtain ⟨value, found, wordEq⟩ := encode_bool_eq_ok.mp leftWord
      obtain ⟨other, otherFound, otherEq⟩ := encode_bool_eq_ok.mp rightWord
      have small := Bool.toNat_lt value
      have otherSmall := Bool.toNat_lt other
      have numbers := word_of_int_injective (wordEq.symm.trans otherEq) (by omega) (by omega)
      have values : value = other := by
        cases value <;> cases other <;> simp_all
      exact ⟨value, found, values ▸ otherFound⟩
  | string =>
      obtain ⟨text, found, wordEq⟩ := encode_string_eq_ok.mp leftWord
      obtain ⟨other, otherFound, otherEq⟩ := encode_string_eq_ok.mp rightWord
      have octets := separates.eq (.text found) (.text otherFound) (wordEq.symm.trans otherEq)
      exact ⟨text, found, utf8_injective octets ▸ otherFound⟩
  | bytes =>
      obtain ⟨octets, found, wordEq⟩ := encode_bytes_eq_ok.mp leftWord
      obtain ⟨other, otherFound, otherEq⟩ := encode_bytes_eq_ok.mp rightWord
      have same := separates.eq (.octets found) (.octets otherFound) (wordEq.symm.trans otherEq)
      exact ⟨octets, found, same ▸ otherFound⟩
  | fixedBytes length =>
      obtain ⟨octets, found, fits, wordEq⟩ := encode_fixed_bytes_eq_ok.mp leftWord
      obtain ⟨other, otherFound, otherFits, otherEq⟩ := encode_fixed_bytes_eq_ok.mp rightWord
      exact ⟨octets, other, found, otherFound, fits, otherFits, wordEq.symm.trans otherEq⟩
  | uint bits =>
      have width : (2 : Int) ^ bits ≤ 2 ^ 256 :=
        pow_le_pow_right₀ (by decide) (bits_le_of_name (.inl named))
      obtain ⟨value, found, lower, upper, wordEq⟩ := encode_uint_eq_ok.mp leftWord
      obtain ⟨other, otherFound, otherLower, otherUpper, otherEq⟩ := encode_uint_eq_ok.mp rightWord
      have values := word_of_int_injective (wordEq.symm.trans otherEq) (by omega) (by omega)
      exact ⟨value, found, values ▸ otherFound⟩
  | int bits =>
      have width : (2 : Int) ^ (bits - 1) ≤ 2 ^ 255 :=
        pow_le_pow_right₀ (by decide) (by have := bits_le_of_name (.inr named); omega)
      obtain ⟨value, found, lower, upper, wordEq⟩ := encode_int_eq_ok.mp leftWord
      obtain ⟨other, otherFound, otherLower, otherUpper, otherEq⟩ := encode_int_eq_ok.mp rightWord
      have values := word_of_int_injective (wordEq.symm.trans otherEq) (by omega) (by omega)
      exact ⟨value, found, values ▸ otherFound⟩

/-- What is claimed of one value: any other value with its word denotes the same. -/
def Binds (hash : HashFunction) (schema : Schema) (left : Json) : Prop :=
  ∀ (right : Json) (type : String) (word : Digest),
    encodeValue hash schema left type = .ok word → encodeValue hash schema right type = .ok word →
    Separates hash (HashedInValue hash schema left type) (HashedInValue hash schema right type) →
    SameValue schema type left right

/-- Words have one width, so arrays of different lengths have different words. -/
theorem same_items_of_encode_eq {element : String} {left right : List Json} {words : List UInt8}
    (binds : ∀ item ∈ left, Binds hash schema item)
    (leftWords : encodeItems hash schema left element = .ok words)
    (rightWords : encodeItems hash schema right element = .ok words)
    (separates : ∀ item ∈ left, ∀ other ∈ right, Separates hash
      (HashedInValue hash schema item element) (HashedInValue hash schema other element)) :
    SameItems schema element left right := by
  induction left generalizing right words with
  | nil =>
      cases right with
      | nil => exact .nil
      | cons other others =>
          obtain ⟨word, later, -, -, wordsEq⟩ := encode_items_cons_eq_ok.mp rightWords
          have lengths := congrArg List.length wordsEq
          cases leftWords
          simp only [List.length_nil, List.length_append, Octets.length_toList] at lengths
          omega
  | cons item rest induction =>
      obtain ⟨word, later, here, there, wordsEq⟩ := encode_items_cons_eq_ok.mp leftWords
      cases right with
      | nil =>
          have lengths := congrArg List.length wordsEq
          cases rightWords
          simp only [List.length_nil, List.length_append, Octets.length_toList] at lengths
          omega
      | cons other others =>
          obtain ⟨otherWord, otherLater, otherHere, otherThere, otherEq⟩ :=
            encode_items_cons_eq_ok.mp rightWords
          obtain ⟨rfl, rfl⟩ := Octets.eq_of_prefix (wordsEq.symm.trans otherEq)
          refine .cons (binds item (by simp) other element word here otherHere
            (separates item (by simp) other (by simp))) ?_
          apply induction (fun item member => binds item (by simp [member])) there otherThere
          intro item member other otherMember
          exact separates item (by simp [member]) other (by simp [otherMember])

theorem same_fields_of_words_eq {name : String} {fields : List Field} {left right : Json.Object}
    {words : List UInt8} (binds : ∀ key value, left.get? key = some value → Binds hash schema value)
    (leftWords : fieldWords name (encodeMembers hash schema left) fields = .ok words)
    (rightWords : fieldWords name (encodeMembers hash schema right) fields = .ok words)
    (separates : ∀ field ∈ fields, ∀ value other, left.get? field.name = some value →
      right.get? field.name = some other → Separates hash
        (HashedInValue hash schema value field.type)
        (HashedInValue hash schema other field.type)) :
    SameFields schema fields left right := by
  induction fields generalizing words with
  | nil => exact .nil
  | cons field rest induction =>
      obtain ⟨value, word, later, found, here, there, wordsEq⟩ :=
        field_words_cons_eq_ok.mp leftWords
      obtain ⟨other, otherWord, otherLater, otherFound, otherHere, otherThere, otherEq⟩ :=
        field_words_cons_eq_ok.mp rightWords
      obtain ⟨rfl, rfl⟩ := Octets.eq_of_prefix (wordsEq.symm.trans otherEq)
      refine .cons found otherFound (binds _ _ found other field.type word here otherHere
        (separates field (by simp) value other found otherFound)) ?_
      apply induction there otherThere
      intro field listed
      exact separates field (by simp [listed])

/-- Struct hashes of two messages of one struct are binding if their members are. -/
theorem same_struct_of_binds {name : String} {left right : Json.Object} {digest : Digest}
    (binds : ∀ key value, left.get? key = some value → Binds hash schema value)
    (leftHash : hashStruct hash schema name left = .ok digest)
    (rightHash : hashStruct hash schema name right = .ok digest)
    (separates : Separates hash (HashedInStruct hash schema left name)
      (HashedInStruct hash schema right name)) : SameStruct schema name left right := by
  obtain ⟨type, words, typed, encoded, digestEq⟩ := hash_struct_eq_ok.mp leftHash
  obtain ⟨otherType, otherWords, otherTyped, otherEncoded, otherEq⟩ :=
    hash_struct_eq_ok.mp rightHash
  have types : type = otherType := Except.ok.inj (typed.symm.trans otherTyped)
  subst types
  -- The type string is the same on both sides, so the words after it are.
  have preimages := separates.eq (.words typed encoded) (.words otherTyped otherEncoded)
    (digestEq.symm.trans otherEq)
  have words := List.append_cancel_left preimages
  subst words
  obtain ⟨fields, declared, leftWords⟩ := encode_data_eq_ok.mp encoded
  obtain ⟨otherFields, otherDeclared, rightWords⟩ := encode_data_eq_ok.mp otherEncoded
  have listed : fields = otherFields := Option.some.inj (declared.symm.trans otherDeclared)
  subst listed
  refine ⟨fields, declared, same_fields_of_words_eq binds leftWords rightWords ?_⟩
  intro field listed value other found otherFound
  exact separates.mono (fun _ inside => .member declared listed found inside)
    (fun _ inside => .member declared listed otherFound inside)

/-- The second value and the type are free, so an array's elements and a struct's members can be
compared with those of any other value. -/
theorem value_binds (left : Json) : Binds hash schema left := by
  intro right type word leftWord rightWord separates
  cases shaped : shape type with
  | error e =>
      rw [encode_value_of_shape_error shaped] at leftWord
      cases leftWord
  | ok form =>
      cases form with
      | array element length =>
          obtain ⟨items, words, rfl, checked, encoded, wordEq⟩ :=
            (encode_value_eq_ok_of_array shaped).mp leftWord
          obtain ⟨others, otherWords, rfl, otherChecked, otherEncoded, otherEq⟩ :=
            (encode_value_eq_ok_of_array shaped).mp rightWord
          -- The array's own string comes first; its elements are compared within that.
          have words := separates.eq (.elements shaped encoded) (.elements shaped otherEncoded)
            (wordEq.symm.trans otherEq)
          subst words
          refine .array shaped (same_items_of_encode_eq ?_ encoded otherEncoded ?_)
          · intro item member
            have smaller := size_of_item_lt member
            exact value_binds item
          · intro item member other otherMember
            exact separates.mono (fun _ inside => .element shaped member inside)
              (fun _ inside => .element shaped otherMember inside)
      | single =>
          cases declared : schema.declares type with
          | true =>
              obtain ⟨members, rfl, leftHash⟩ :=
                (encode_value_eq_ok_of_struct shaped declared).mp leftWord
              obtain ⟨others, rfl, rightHash⟩ :=
                (encode_value_eq_ok_of_struct shaped declared).mp rightWord
              -- Any member may be asked for: which ones count is up to the declared fields.
              have inner : ∀ key value, Json.Object.get? members key = some value →
                  Binds hash schema value := by
                intro key value found
                have smaller := size_of_get_lt found
                exact value_binds value
              obtain ⟨fields, listed, same⟩ := same_struct_of_binds inner leftHash rightHash
                (separates.mono (fun _ inside => .struct shaped declared inside)
                  (fun _ inside => .struct shaped declared inside))
              exact .struct shaped listed same
          | false =>
              obtain ⟨primitive, named, leftEncoded⟩ :=
                (encode_value_eq_ok_of_primitive shaped declared).mp leftWord
              obtain ⟨other, otherNamed, rightEncoded⟩ :=
                (encode_value_eq_ok_of_primitive shaped declared).mp rightWord
              cases named.symm.trans otherNamed
              exact .primitive shaped declared named (Primitive.same_of_encode_eq named leftEncoded
                rightEncoded (separates.mono
                  (fun _ inside => .primitive shaped declared named inside)
                  (fun _ inside => .primitive shaped declared named inside)))
termination_by sizeOf left

theorem same_struct_of_hash_eq {name : String} {left right : Json.Object} {digest : Digest}
    (leftHash : hashStruct hash schema name left = .ok digest)
    (rightHash : hashStruct hash schema name right = .ok digest)
    (separates : Separates hash (HashedInStruct hash schema left name)
      (HashedInStruct hash schema right name)) : SameStruct schema name left right :=
  same_struct_of_binds (fun _ value _ => value_binds value) leftHash rightHash separates

end SignedTx.TypedData
