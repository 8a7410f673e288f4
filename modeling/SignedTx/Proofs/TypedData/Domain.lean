import Mathlib.Data.List.Nodup
import SignedTx.Proofs.Json.Object
import SignedTx.Proofs.TypedData.Binding
import SignedTx.Proofs.TypedData.TypeString

/-!
# Hashes of domains

A field that is there has one part: its declaration, its text in the message and its word. Type
string, message and hash of a domain are all read off its parts, so they agree for every choice of
fields, and the parts determine the domain.
-/

set_option autoImplicit false

namespace SignedTx.TypedData

/-- Words have one width, so their octets in a row determine them. -/
theorem words_eq_of_octets_eq {left right : List Digest} (lengths : left.length = right.length)
    (same : left.flatMap Octets.toList = right.flatMap Octets.toList) : left = right := by
  induction left generalizing right with
  | nil => exact (List.length_eq_zero_iff.mp lengths.symm).symm
  | cons word rest induction =>
      cases right with
      | nil => cases lengths
      | cons other others =>
          rw [List.flatMap_cons, List.flatMap_cons] at same
          obtain ⟨rfl, later⟩ := Octets.eq_of_prefix same
          rw [induction (Nat.succ.inj lengths) later]

namespace Domain

variable {hash : HashFunction} {schema : Schema} {domain : Domain}

/-! ## Parts -/

/-- A field that is there: its declaration, its text in the message and its word. -/
structure Part where
  field : Field
  text : String
  word : Digest

def textPart (hash : HashFunction) (name text : String) : Part :=
  ⟨⟨name, "string"⟩, text, hash (utf8 text)⟩

def numberPart (number : Word256) : Part :=
  ⟨⟨"chainId", "uint256"⟩, String.ofList (Digits.decimal number.toNat), wordOfInt number.toNat⟩

def accountPart (account : Octets 20) : Part :=
  ⟨⟨"verifyingContract", "address"⟩, Hex.encodeMarked account.toList,
    (Octets.zero 12).append account⟩

def saltPart (salt : Octets 32) : Part :=
  ⟨⟨"salt", "bytes32"⟩, Hex.encodeMarked salt.toList, salt⟩

/-- The parts of a domain, in the order of its type. -/
def parts (hash : HashFunction) (domain : Domain) : List Part :=
  (domain.name.map (textPart hash "name")).toList ++
    (domain.version.map (textPart hash "version")).toList ++
    (domain.chainId.map numberPart).toList ++
    (domain.verifyingContract.map accountPart).toList ++
    (domain.salt.map saltPart).toList

theorem fields_eq_parts (hash : HashFunction) (domain : Domain) :
    domain.fields = (domain.parts hash).map Part.field := by
  rcases domain with ⟨_ | _, _ | _, _ | _, _ | _, _ | _⟩ <;> rfl

theorem message_eq_parts (hash : HashFunction) (domain : Domain) :
    domain.message = Json.Object.ofList
      ((domain.parts hash).map fun part => (part.field.name, .string part.text)) := by
  rcases domain with ⟨_ | _, _ | _, _ | _, _ | _, _ | _⟩ <;> rfl

theorem part_cases {part : Part} (listed : part ∈ domain.parts hash) :
    (∃ name ∈ domain.name, part = textPart hash "name" name) ∨
      (∃ version ∈ domain.version, part = textPart hash "version" version) ∨
      (∃ number ∈ domain.chainId, part = numberPart number) ∨
      (∃ account ∈ domain.verifyingContract, part = accountPart account) ∨
      ∃ salt ∈ domain.salt, part = saltPart salt := by
  simp only [parts, List.mem_append, Option.mem_toList, Option.map_eq_some_iff,
    or_assoc] at listed
  simpa only [Option.mem_def, @eq_comm _ part] using listed

/-- The fields of a domain that lacks none. -/
def allFields : List Field := [
  ⟨"name", "string"⟩, ⟨"version", "string"⟩, ⟨"chainId", "uint256"⟩,
  ⟨"verifyingContract", "address"⟩, ⟨"salt", "bytes32"⟩]

theorem fields_sublist (domain : Domain) : domain.fields.Sublist allFields := by
  rcases domain with ⟨_ | _, _ | _, _ | _, _ | _, _ | _⟩ <;>
    exact List.isSublist_iff_sublist.mp rfl

/-- The schema declares the domain's type as it is derived, and no struct that would hide the type
of a field. -/
structure Fits (domain : Domain) (schema : Schema) : Prop where
  declared : schema.fields? domainType = some domain.fields
  scalars : ∀ name ∈ ["string", "uint256", "address", "bytes32"], schema.declares name = false

/-- Declaring the type as it is derived changes no other declaration. -/
theorem fits_of_added (domain : Domain) {before after : Schema}
    (absent : (before ++ after).declares domainType = false)
    (scalars : ∀ name ∈ ["string", "uint256", "address", "bytes32"],
      (before ++ after).declares name = false) :
    domain.Fits (before ++ (domainType, domain.fields) :: after) where
  declared := by
    rw [Schema.declares, Schema.fields?, List.lookup_append, Option.isSome_or,
      Bool.or_eq_false_iff, Option.isSome_eq_false_iff, Option.isNone_iff_eq_none] at absent
    rw [Schema.fields?, List.lookup_append, absent.1, Option.none_or, List.lookup_cons,
      beq_self_eq_true]
  scalars := by
    intro name listed
    have distinct : ∀ name ∈ ["string", "uint256", "address", "bytes32"],
        (name == domainType) = false := by
      decide
    have undeclared := scalars name listed
    rw [Schema.declares, Schema.fields?, List.lookup_append] at undeclared ⊢
    rw [List.lookup_cons, distinct name listed]
    exact undeclared

theorem fits_derived (domain : Domain) : domain.Fits [(domainType, domain.fields)] :=
  @fits_of_added domain [] [] rfl (by decide)

/-! ## Hash of a domain -/

theorem encode_part {part : Part} (fits : domain.Fits schema) (listed : part ∈ domain.parts hash) :
    encodeValue hash schema (.string part.text) part.field.type = .ok part.word := by
  rcases part_cases listed with ⟨name, -, rfl⟩ | ⟨version, -, rfl⟩ | ⟨number, -, rfl⟩ |
    ⟨account, -, rfl⟩ | ⟨salt, -, rfl⟩
  · exact encode_value_of_string (fits.scalars "string" (by simp)) name
  · exact encode_value_of_string (fits.scalars "string" (by simp)) version
  · exact encode_value_of_number (fits.scalars "uint256" (by simp)) number
  · exact encode_value_of_account (fits.scalars "address" (by simp)) account
  · exact encode_value_of_word (fits.scalars "bytes32" (by simp)) salt

theorem get_part {part : Part} (listed : part ∈ domain.parts hash) :
    domain.message.get? part.field.name = some (.string part.text) := by
  rw [message_eq_parts hash]
  apply Json.Object.get_of_mem
  · have names := (fields_sublist domain).map Field.name
    rw [fields_eq_parts hash] at names
    rw [List.map_map] at names ⊢
    exact names.nodup (by decide)
  · exact List.mem_map_of_mem listed

theorem encode_data_eq (hash : HashFunction) (fits : domain.Fits schema) :
    encodeData hash schema domainType domain.message =
      .ok (((domain.parts hash).map Part.word).flatMap Octets.toList) := by
  have declared := fits.declared
  rw [fields_eq_parts hash] at declared
  apply encode_data_of_words declared
  rw [List.forall₂_map_left_iff, List.forall₂_map_right_iff, List.forall₂_same]
  intro part listed
  exact ⟨_, get_part listed, encode_part fits listed⟩

theorem is_primitive_of_mem (fits : domain.Fits schema) {field : Field}
    (listed : field ∈ domain.fields) : schema.IsPrimitive field := by
  have scalar : ∀ field ∈ allFields,
      baseName field.type ∈ ["string", "uint256", "address", "bytes32"] ∧
        (Primitive.ofName? (baseName field.type)).isSome = true := by
    decide
  obtain ⟨named, primitive⟩ := scalar field ((fields_sublist domain).subset listed)
  have undeclared := fits.scalars _ named
  rw [Schema.declares, Option.isSome_eq_false_iff, Option.isNone_iff_eq_none] at undeclared
  exact ⟨undeclared, primitive⟩

theorem encode_type_eq (fits : domain.Fits schema) :
    schema.encodeType domainType = .ok (Schema.definition domainType domain.fields) :=
  Schema.encode_type_of_primitives fits.declared fun _ => is_primitive_of_mem fits

/-- What is hashed for a domain after its texts. -/
def preimage (hash : HashFunction) (domain : Domain) : List UInt8 :=
  (hash (utf8 (Schema.definition domainType domain.fields))).toList ++
    ((domain.parts hash).map Part.word).flatMap Octets.toList

theorem hash_struct_eq (hash : HashFunction) (fits : domain.Fits schema) :
    hashStruct hash schema domainType domain.message = .ok (hash (domain.preimage hash)) :=
  hash_struct_of_words (encode_type_eq fits) (encode_data_eq hash fits)

/-! ## Binding -/

theorem hashed_type (fits : domain.Fits schema) :
    HashedInStruct hash schema domain.message domainType
      (utf8 (Schema.definition domainType domain.fields)) :=
  .type (encode_type_eq fits)

theorem hashed_preimage (fits : domain.Fits schema) :
    HashedInStruct hash schema domain.message domainType (domain.preimage hash) := by
  have typed : typeHash hash schema domainType =
      .ok (hash (utf8 (Schema.definition domainType domain.fields))) := by
    rw [typeHash, encode_type_eq fits]
    rfl
  exact .words typed (encode_data_eq hash fits)

theorem hashed_text (name : String) {text : String} (fits : domain.Fits schema)
    (listed : textPart hash name text ∈ domain.parts hash) :
    HashedInStruct hash schema domain.message domainType (utf8 text) := by
  have field : (textPart hash name text).field ∈ domain.fields := by
    rw [fields_eq_parts hash]
    exact List.mem_map_of_mem listed
  have inside : HashedInValue hash schema (.string text) "string" (utf8 text) :=
    .primitive rfl (fits.scalars "string" (by simp)) rfl (.text rfl)
  exact .member fits.declared field (get_part listed) inside

theorem hashed_name {text : String} (fits : domain.Fits schema) (found : text ∈ domain.name) :
    HashedInStruct hash schema domain.message domainType (utf8 text) :=
  hashed_text "name" fits (by simp [parts, Option.mem_def.mp found])

theorem hashed_version {text : String} (fits : domain.Fits schema)
    (found : text ∈ domain.version) :
    HashedInStruct hash schema domain.message domainType (utf8 text) :=
  hashed_text "version" fits (by simp [parts, Option.mem_def.mp found])

/-- The word of the part with a given name. -/
def wordAt (hash : HashFunction) (domain : Domain) (name : String) : Option Digest :=
  ((domain.parts hash).map fun part => (part.field.name, part.word)).lookup name

theorem lookup_part {α : Type} (name : String) (part : α → Part)
    (named : ∀ x, (part x).field.name = name) (key : String) (found : Option α) :
    ((found.map part).toList.map fun part => (part.field.name, part.word)).lookup key =
      if key = name then found.map fun x => (part x).word else none := by
  cases found with
  | none => simp
  | some x =>
      rw [Option.map_some, Option.toList_some, List.map_singleton, List.lookup_cons, named]
      by_cases same : key = name
      · rw [beq_iff_eq.mpr same, if_pos same, Option.map_some]
      · rw [beq_eq_false_iff_ne.mpr same, if_neg same, List.lookup_nil]

theorem word_at_eq (hash : HashFunction) (domain : Domain) :
    domain.wordAt hash "name" = domain.name.map (fun text => hash (utf8 text)) ∧
      domain.wordAt hash "version" = domain.version.map (fun text => hash (utf8 text)) ∧
      domain.wordAt hash "chainId" = domain.chainId.map (fun id => wordOfInt id.toNat) ∧
      domain.wordAt hash "verifyingContract" =
        domain.verifyingContract.map (Octets.zero 12).append ∧
      domain.wordAt hash "salt" = domain.salt := by
  have name := lookup_part "name" (textPart hash "name") fun _ => rfl
  have version := lookup_part "version" (textPart hash "version") fun _ => rfl
  have chainId := lookup_part "chainId" numberPart fun _ => rfl
  have account := lookup_part "verifyingContract" accountPart fun _ => rfl
  have salt := lookup_part "salt" saltPart fun _ => rfl
  simp only [wordAt, parts, List.map_append, List.lookup_append, name, version, chainId, account,
    salt]
  simp [textPart, numberPart, accountPart, saltPart]

theorem eq_of_map_eq {α β : Type} {f : α → β} {left right : Option α}
    (injective : ∀ x ∈ left, ∀ y ∈ right, f x = f y → x = y)
    (same : left.map f = right.map f) : left = right := by
  cases left with
  | none =>
      cases right with
      | none => rfl
      | some y => cases same
  | some x =>
      cases right with
      | none => cases same
      | some y => rw [injective x rfl y rfl (Option.some.inj same)]

theorem word_at_eq_of_preimage_eq {left right : Domain} (fields : left.fields = right.fields)
    (same : left.preimage hash = right.preimage hash) (name : String) :
    left.wordAt hash name = right.wordAt hash name := by
  rw [fields_eq_parts hash, fields_eq_parts hash] at fields
  rw [preimage, preimage, fields_eq_parts hash, fields_eq_parts hash, fields] at same
  have words : (left.parts hash).map Part.word = (right.parts hash).map Part.word := by
    apply words_eq_of_octets_eq ?_ (List.append_cancel_left same)
    simpa using congrArg List.length fields
  have names := congrArg (List.map Field.name) fields
  rw [List.map_map, List.map_map] at names
  have pairs : ∀ domain : Domain,
      (domain.parts hash).map (fun part => (part.field.name, part.word)) =
        ((domain.parts hash).map (Field.name ∘ Part.field)).zip
          ((domain.parts hash).map Part.word) := by
    intro domain
    rw [List.zip_map']
    rfl
  rw [wordAt, wordAt, pairs, pairs, names, words]

theorem eq_of_hash_eq {left right : Domain} {leftTypes rightTypes : Schema}
    (leftFits : left.Fits leftTypes) (rightFits : right.Fits rightTypes)
    (separates : Separates hash (HashedInStruct hash leftTypes left.message domainType)
      (HashedInStruct hash rightTypes right.message domainType))
    (same : hash (left.preimage hash) = hash (right.preimage hash)) : left = right := by
  have preimages : left.preimage hash = right.preimage hash :=
    separates.eq (hashed_preimage leftFits) (hashed_preimage rightFits) same
  have plain : ∀ {domain : Domain}, ∀ field ∈ domain.fields, Schema.IsPlain field := by
    intro domain field listed
    have all : ∀ field ∈ allFields, Schema.IsPlain field := by decide
    exact all field ((fields_sublist domain).subset listed)
  have fields : left.fields = right.fields := by
    have types := (Octets.eq_of_prefix preimages).1
    have texts := separates.eq (hashed_type leftFits) (hashed_type rightFits) types
    exact Schema.definition_injective plain plain (utf8_injective texts)
  obtain ⟨names, versions, numbers, accounts, salts⟩ := word_at_eq hash left
  have words := word_at_eq_of_preimage_eq fields preimages
  rw [words] at names versions numbers accounts salts
  obtain ⟨otherNames, otherVersions, otherNumbers, otherAccounts, otherSalts⟩ :=
    word_at_eq hash right
  have name : left.name = right.name := by
    apply eq_of_map_eq ?_ (names.symm.trans otherNames)
    intro text found other otherFound hashes
    exact utf8_injective (separates.eq (hashed_name leftFits found)
      (hashed_name rightFits otherFound) hashes)
  have version : left.version = right.version := by
    apply eq_of_map_eq ?_ (versions.symm.trans otherVersions)
    intro text found other otherFound hashes
    exact utf8_injective (separates.eq (hashed_version leftFits found)
      (hashed_version rightFits otherFound) hashes)
  have chainId : left.chainId = right.chainId := by
    apply eq_of_map_eq ?_ (numbers.symm.trans otherNumbers)
    intro number _ other _ same
    have bound := number.isLt
    have otherBound := other.isLt
    have values := word_of_int_injective same (by omega) (by omega)
    exact BitVec.eq_of_toNat_eq (by exact_mod_cast values)
  have contract : left.verifyingContract = right.verifyingContract := by
    apply eq_of_map_eq ?_ (accounts.symm.trans otherAccounts)
    intro account _ other _ same
    exact Octets.ext (List.append_cancel_left (congrArg Octets.toList same))
  have salt : left.salt = right.salt := salts.symm.trans otherSalts
  cases left
  cases right
  rw [mk.injEq]
  exact ⟨name, version, chainId, contract, salt⟩

/-! ## The strings that are hashed -/

/-- The strings that are hashed for a domain: its type, its texts, and the words behind the type. -/
def hashedStrings (hash : HashFunction) (domain : Domain) : List (List UInt8) :=
  utf8 (Schema.definition domainType domain.fields) :: domain.preimage hash ::
    (domain.name.toList ++ domain.version.toList).map utf8

theorem mem_hashed_strings (fits : domain.Fits schema) {bytes : List UInt8}
    (hashed : HashedInStruct hash schema domain.message domainType bytes) :
    bytes ∈ domain.hashedStrings hash := by
  rcases hashed.cases_of_words (encode_type_eq fits) fits.declared (encode_data_eq hash fits)
    with isType | isPreimage | ⟨field, listed, value, found, inside⟩
  · simp [hashedStrings, isType]
  · simp [hashedStrings, isPreimage, preimage]
  · rw [fields_eq_parts hash] at listed
    obtain ⟨part, member, rfl⟩ := List.mem_map.mp listed
    cases found.symm.trans (get_part member)
    rcases part_cases member with ⟨name, inName, rfl⟩ | ⟨version, inVersion, rfl⟩ |
      ⟨number, -, rfl⟩ | ⟨account, -, rfl⟩ | ⟨salt, -, rfl⟩
    · have text : bytes = utf8 name := inside.eq_of_string (fits.scalars "string" (by simp))
      simp [hashedStrings, text, Option.mem_def.mp inName]
    · have text : bytes = utf8 version := inside.eq_of_string (fits.scalars "string" (by simp))
      simp [hashedStrings, text, Option.mem_def.mp inVersion]
    -- Numbers, accounts and salts are their own words: nothing is hashed for them.
    · change HashedInValue hash schema _ "uint256" bytes at inside
      have none_hashed : (Primitive.uint 256).Hashes "uint256" _ bytes :=
        inside.primitive_hashes rfl (fits.scalars "uint256" (by simp)) rfl
      cases none_hashed
    · change HashedInValue hash schema _ "address" bytes at inside
      have none_hashed : Primitive.address.Hashes "address" _ bytes :=
        inside.primitive_hashes rfl (fits.scalars "address" (by simp)) rfl
      cases none_hashed
    · change HashedInValue hash schema _ "bytes32" bytes at inside
      have none_hashed : (Primitive.fixedBytes 32).Hashes "bytes32" _ bytes :=
        inside.primitive_hashes rfl (fits.scalars "bytes32" (by simp)) rfl
      cases none_hashed

end Domain
end SignedTx.TypedData
