import SignedTx.Proofs.TypedData.DerivedDomain
import SignedTx.Proofs.TypedData.Extension
import SignedTx.Proofs.TypedData.IntegerWords

/-!
# JSON forms of domains and documents

A domain is stored under the names of its fields, and what is missing is left out. Its chain id is
stored in marked hexadecimal and hashed in decimal; the other members are the same in both. The
readers undo the writers whatever fields are there and whatever they hold, so a document that was
stored has the hashes it had before. The texts of JSON values are not the subject here.
-/

set_option autoImplicit false

namespace SignedTx

namespace TypedData

namespace Domain

variable {domain : Domain}

/-! ## Members -/

section

variable {spell other : Nat → List Char} {key : String}

/-- What each field of a domain puts into an object, nothing where it is missing. -/
def slots (spell : Nat → List Char) (domain : Domain) : List (String × Option Json) := [
  ("name", domain.name.map .string),
  ("version", domain.version.map .string),
  ("chainId", domain.chainId.map fun id => .string (String.ofList (spell id.toNat))),
  ("verifyingContract",
    domain.verifyingContract.map fun account => .string (Hex.encodeMarked account.toList)),
  ("salt", domain.salt.map fun salt => .string (Hex.encodeMarked salt.toList))]

theorem members_eq_slots (spell : Nat → List Char) (domain : Domain) :
    domain.members spell = Json.Object.ofList (Json.Object.present (domain.slots spell)) := by
  rcases domain with ⟨_ | _, _ | _, _ | _, _ | _, _ | _⟩ <;> rfl

theorem names_eq_slots (spell : Nat → List Char) (domain : Domain) :
    domain.fields.map Field.name = (Json.Object.present (domain.slots spell)).map Prod.fst := by
  rcases domain with ⟨_ | _, _ | _, _ | _, _ | _, _ | _⟩ <;> rfl

theorem get_slot {value : Option Json} (listed : (key, value) ∈ domain.slots spell) :
    (domain.members spell).get? key = value := by
  have names : (allFields.map Field.name).Nodup := by
    decide
  have distinct : ((domain.slots spell).map Prod.fst).Nodup := names
  rw [members_eq_slots]
  exact Json.Object.get_of_present distinct listed

theorem get_slots (spell : Nat → List Char) (domain : Domain) :
    (domain.members spell).get? "name" = domain.name.map .string ∧
      (domain.members spell).get? "version" = domain.version.map .string ∧
      (domain.members spell).get? "chainId" =
        domain.chainId.map (fun id => .string (String.ofList (spell id.toNat))) ∧
      (domain.members spell).get? "verifyingContract" =
        domain.verifyingContract.map (fun account => .string (Hex.encodeMarked account.toList)) ∧
      (domain.members spell).get? "salt" =
        domain.salt.map fun salt => .string (Hex.encodeMarked salt.toList) := by
  refine ⟨get_slot ?_, get_slot ?_, get_slot ?_, get_slot ?_, get_slot ?_⟩ <;> simp [slots]

theorem is_some_get_iff : ((domain.members spell).get? key).isSome = true ↔
    ∃ field ∈ domain.fields, field.name = key := by
  rw [members_eq_slots, Json.Object.is_some_get_of_list, ← names_eq_slots, List.mem_map]

/-- Only the chain id is spelled in one of two ways. -/
theorem get_of_ne_chain_id (apart : key ≠ "chainId") :
    (domain.members spell).get? key = (domain.members other).get? key := by
  by_cases listed : ∃ field ∈ domain.fields, field.name = key
  · obtain ⟨field, inside, rfl⟩ := listed
    have known := (fields_sublist domain).subset inside
    obtain ⟨name, version, -, account, salt⟩ := get_slots spell domain
    obtain ⟨otherName, otherVersion, -, otherAccount, otherSalt⟩ := get_slots other domain
    simp only [allFields, List.mem_cons, List.not_mem_nil, or_false] at known
    rcases known with rfl | rfl | rfl | rfl | rfl
    · exact name.trans otherName.symm
    · exact version.trans otherVersion.symm
    · exact absurd rfl apart
    · exact account.trans otherAccount.symm
    · exact salt.trans otherSalt.symm
  · have missing := @is_some_get_iff domain spell key
    have otherMissing := @is_some_get_iff domain other key
    rw [iff_false_right listed, Option.not_isSome_iff_eq_none] at missing otherMissing
    rw [missing, otherMissing]

end

/-! ## Reading -/

/-- A number as it is stored. -/
def marked (n : Nat) : List Char := '0' :: 'x' :: Digits.hexadecimal n

theorem to_json_eq (domain : Domain) : domain.toJson = .object (domain.members marked) := rfl

theorem spells_hexadecimal (n : Nat) : Digits.Spells 16 (Digits.hexadecimal n) n :=
  Digits.spells_to_digits (by decide) (Nat.le_refl 16) n

theorem read_chain_id_marked (id : Word256) :
    readChainId (.string (String.ofList (marked id.toNat))) = some id := by
  have digits := Digits.spaced_of_spells (spells_hexadecimal id.toNat)
  have small : id.toNat < wordCount := by
    rw [word_count_eq]
    exact id.isLt
  rw [readChainId, String.toList_ofList, marked]
  change (Digits.spacedNat? 16 (Digits.hexadecimal id.toNat)).bind word256? = some id
  rw [digits, Option.bind_some, word256?, if_pos small, BitVec.ofNat_toNat, BitVec.setWidth_eq]

theorem read_octets_marked {n : Nat} (octets : Octets n) :
    readOctets n (.string (Hex.encodeMarked octets.toList)) = some octets := by
  rw [readOctets, Hex.decode_fixed_encode_marked]
  rfl

theorem optional_of_text {α : Type} {read : Json → Option α} {text : α → String}
    (readable : ∀ value, read (.string (text value)) = some value) (value : Option α) :
    optional read (value.map fun value => .string (text value)) = some value := by
  cases value with
  | none => rfl
  | some value =>
      change (read (.string (text value))).map some = some (some value)
      rw [readable]
      rfl

theorem of_json_to_json (domain : Domain) : ofJson? domain.toJson = some domain := by
  obtain ⟨name, version, chainId, account, salt⟩ := get_slots marked domain
  have textRead : ∀ text : Option String, optional Json.string? (text.map .string) = some text :=
    @optional_of_text _ Json.string? id fun _ => rfl
  have fields : domain.toJson.fields? ["name", "version", "chainId", "verifyingContract", "salt"] =
      some [domain.name.map .string, domain.version.map .string,
        domain.chainId.map fun id => .string (String.ofList (marked id.toNat)),
        domain.verifyingContract.map fun account => .string (Hex.encodeMarked account.toList),
        domain.salt.map fun salt => .string (Hex.encodeMarked salt.toList)] := by
    rw [to_json_eq, Json.fields?, ← name, ← version, ← chainId, ← account, ← salt]
    rfl
  rw [ofJson?, fields]
  simp only [Option.bind_eq_bind, Option.bind_some, textRead,
    optional_of_text read_chain_id_marked, optional_of_text read_octets_marked]
  rfl

/-! ## The two spellings -/

theorem encode_of_marked {hash : HashFunction} {schema : Schema} {type : String}
    {least excess : Int} (hasType : schema.HasIntegerType type least excess) (id : Word256) :
    encodeValue hash schema (.string (String.ofList (marked id.toNat))) type =
      encodeValue hash schema (.string (String.ofList (Digits.decimal id.toNat))) type := by
  have numeral : IsNumeral (marked id.toNat) id.toNat :=
    .hexadecimal (.inl rfl) Nat.toDigits_ne_nil (spells_hexadecimal id.toNat)
  exact hasType.encode_congr (numeral.integer_of_text id.isLt)
    ((decimal_numeral 0 id.toNat).integer_of_text id.isLt)

/-- The spelling of the chain id does not matter where the domain's type, as the schema declares it,
takes an integer for the chain id. -/
theorem hash_struct_of_marked {hash : HashFunction} {schema : Schema}
    (integers : ∀ field, schema.HasField domainType field → field.name = "chainId" →
      ∃ least excess, schema.HasIntegerType field.type least excess) :
    hashStruct hash schema domainType (domain.members marked) =
      hashStruct hash schema domainType domain.message := by
  apply hash_struct_congr
  · intro field _
    rw [Bool.eq_iff_iff, is_some_get_iff, message, is_some_get_iff]
  · intro field hasField value other found otherFound
    by_cases number : field.name = "chainId"
    · obtain ⟨least, excess, hasType⟩ := integers field hasField number
      obtain ⟨-, -, stored, -⟩ := get_slots marked domain
      obtain ⟨-, -, plain, -⟩ := get_slots Digits.decimal domain
      rw [number] at found otherFound
      cases here : domain.chainId with
      | none =>
          rw [stored, here] at found
          cases found
      | some id =>
          rw [stored, here, Option.map_some, Option.some.injEq] at found
          rw [message, plain, here, Option.map_some, Option.some.injEq] at otherFound
          rw [← found, ← otherFound]
          exact encode_of_marked hasType id
    · rw [get_of_ne_chain_id number] at found
      rw [message, found, Option.some.injEq] at otherFound
      rw [otherFound]

end Domain

/-! ## Documents -/

namespace Document

theorem field_of_json_to_json (field : Field) : fieldOfJson? (fieldToJson field) = some field := rfl

theorem map_m_of_read_back {α β : Type} {read : β → Option α} {write : α → β}
    (each : ∀ item, read (write item) = some item) (items : List α) :
    (items.map write).mapM read = some items := by
  have undone : read ∘ write = fun item => pure (id item) := funext each
  rw [List.mapM_map, undone, List.mapM_pure, List.map_id]
  rfl

theorem schema_of_json_to_json (schema : Schema) :
    schemaOfJson? (schemaToJson schema) = some schema := by
  apply map_m_of_read_back
  intro definition
  change (do return (definition.1, ← (definition.2.map fieldToJson).mapM fieldOfJson?)) =
    some definition
  rw [map_m_of_read_back field_of_json_to_json]
  rfl

theorem of_json_to_json (document : Document) : ofJson? document.toJson = some document := by
  change (do return (⟨← schemaOfJson? (schemaToJson document.types), document.primaryType,
    ← Domain.ofJson? document.domain.toJson, document.message⟩ : Document)) = some document
  rw [schema_of_json_to_json, Domain.of_json_to_json]
  rfl

end Document
end TypedData

open TypedData

/-- Reading undoes storing, for every domain and for every document. A stored domain has members for
the fields that are there and no others; only its chain id is written as it is not in the message
that is hashed, the same number in base sixteen behind a mark. Hashed in place of that message it
gives the same hash, unless the schema declares a chain id that is no integer. What is read of a
stored document has its type string, its separator and its hashes, or the same errors. -/
theorem json_form_is_read_back :
    (∀ domain : Domain, ∃ stored : Json.Object, domain.toJson = .object stored ∧
      Domain.ofJson? (.object stored) = some domain ∧
      (∀ key, (stored.get? key).isSome = true ↔ ∃ field ∈ domain.fields, field.name = key) ∧
      (∀ key, key ≠ "chainId" → stored.get? key = domain.message.get? key) ∧
      (∀ id ∈ domain.chainId, ∃ hexadecimal decimal,
        stored.get? "chainId" = some (.string (String.ofList ('0' :: 'x' :: hexadecimal))) ∧
        domain.message.get? "chainId" = some (.string (String.ofList decimal)) ∧
        Digits.Spells 16 hexadecimal id.toNat ∧ Digits.Spells 10 decimal id.toNat) ∧
      ∀ (hash : HashFunction) (schema : Schema),
        (∀ field, schema.HasField domainType field → field.name = "chainId" →
          ∃ least excess, schema.HasIntegerType field.type least excess) →
        hashStruct hash schema domainType stored =
          hashStruct hash schema domainType domain.message) ∧
    ∀ document : Document, Document.ofJson? document.toJson = some document ∧
      ∀ read, Document.ofJson? document.toJson = some read →
        read.types.encodeType read.primaryType =
          document.types.encodeType document.primaryType ∧
        ∀ hash, read.domainSeparator hash = document.domainSeparator hash ∧
          read.messageHash hash = document.messageHash hash ∧
          read.signingHash hash = document.signingHash hash := by
  constructor
  · intro domain
    refine ⟨domain.members Domain.marked, rfl, Domain.of_json_to_json domain,
      fun _ => Domain.is_some_get_iff, fun _ => Domain.get_of_ne_chain_id, ?_, ?_⟩
    · intro id found
      obtain ⟨-, -, stored, -⟩ := Domain.get_slots Domain.marked domain
      obtain ⟨-, -, plain, -⟩ := Domain.get_slots Digits.decimal domain
      rw [Option.mem_def.mp found] at stored plain
      exact ⟨Digits.hexadecimal id.toNat, Digits.decimal id.toNat, stored, plain,
        Digits.spells_to_digits (by decide) (by decide) _,
        Digits.spells_to_digits (by decide) (by decide) _⟩
    · intro hash schema
      exact Domain.hash_struct_of_marked
  · intro document
    have back := Document.of_json_to_json document
    refine ⟨back, ?_⟩
    intro read found
    cases back.symm.trans found
    exact ⟨rfl, fun _ => ⟨rfl, rfl, rfl⟩⟩

/-! ## A bridge -/

/-- The type that is derived for the chain id. -/
theorem chain_number_is_integer {schema : Schema} (undeclared : schema.declares "uint256" = false) :
    schema.HasIntegerType "uint256" 0 (2 ^ 256) :=
  (@IntegerType.uint 256 rfl (by decide) (by decide)).has_integer_type undeclared

/-- The chain id is the largest there is, and the bridge has no version. -/
theorem bridge_is_read_back : ∃ stored : Json.Object,
    namedBridge.toJson = .object stored ∧ Domain.ofJson? (.object stored) = some namedBridge ∧
      stored.get? "version" = none ∧
      stored.get? "chainId" ≠ namedBridge.message.get? "chainId" ∧
      hashStruct markedHash [(domainType, namedBridge.fields)] domainType stored =
        (bridgeDocument namedBridge mailTypes).domainSeparator markedHash ∧
      Document.ofJson? (bridgeDocument namedBridge mailTypes).toJson =
        some (bridgeDocument namedBridge mailTypes) := by
  obtain ⟨domains, documents⟩ := json_form_is_read_back
  obtain ⟨stored, json, read, there, -, numbers, hashes⟩ := domains namedBridge
  obtain ⟨hexadecimal, decimal, marked, plain, -, spells⟩ := numbers _ rfl
  refine ⟨stored, json, read, ?_, ?_, ?_, (documents _).1⟩
  · rw [← Option.not_isSome_iff_eq_none, there]
    decide
  · intro same
    rw [marked, plain, Option.some.injEq, Json.string.injEq, String.ofList_inj] at same
    rw [← same] at spells
    exact absurd (@Digits.Spells.valid _ _ _ spells 'x' (by simp)) (by decide)
  · apply hashes
    intro field hasField number
    obtain ⟨fields, declared, listed⟩ := hasField
    cases declared
    have typed : ∀ field ∈ namedBridge.fields, field.name = "chainId" → field.type = "uint256" := by
      decide
    rw [typed field listed number]
    exact ⟨_, _, chain_number_is_integer (by decide)⟩

end SignedTx
