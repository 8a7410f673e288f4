import SignedTx.Proofs.TypedData.Reference

/-!
# Types that only a value finds unknown

The type string looks at what stands before a field type's first bracket; the suffixes behind it
are read when a value is encoded. Where all suffixes in the structs reached are well formed, the two
agree: once there is a type string, no value meets an unknown type. A malformed suffix gets into the
type string, and a value under it is refused.
-/

set_option autoImplicit false

namespace SignedTx.TypedData

/-! ## Suffixes -/

/-- The type is the base with any number of array suffixes after it. -/
inductive HasSuffixes (base : String) : (type : String) → Prop
  | bare : HasSuffixes base base
  | array {element suffix : String} {length : Option Nat} (inner : HasSuffixes base element)
      (suffixed : IsSuffix suffix length) : HasSuffixes base (element ++ suffix)

/-- The type is a name without brackets and well-formed array suffixes, whatever the name means. -/
def IsWellSuffixed (type : String) : Prop := ∃ base, IsPlainName base ∧ HasSuffixes base type

theorem HasSuffixes.base_name_eq {base type : String} (suffixes : HasSuffixes base type)
    (plain : IsPlainName base) : baseName type = base := by
  induction suffixes with
  | bare => exact plain.base_name_eq
  | array _ suffixed induction => rw [suffixed.base_name_eq, induction]

variable {hash : HashFunction} {schema : Schema} {primary : String}

/-- A type as it may stand in a struct that the primary one reaches, once there is a type string and
the suffixes are well formed. -/
inductive IsReachedType (schema : Schema) (primary : String) : (type : String) → Prop
  | struct {name : String} (plain : IsPlainName name) (declared : schema.declares name = true)
      (reached : schema.Reaches primary name) : IsReachedType schema primary name
  | primitive {name : String} {primitive : Primitive} (undeclared : schema.declares name = false)
      (named : Primitive.Named name primitive) : IsReachedType schema primary name
  | array {element suffix : String} {length : Option Nat}
      (inner : IsReachedType schema primary element) (suffixed : IsSuffix suffix length) :
      IsReachedType schema primary (element ++ suffix)

theorem HasSuffixes.is_reached {base type : String} (suffixes : HasSuffixes base type)
    (known : IsReachedType schema primary base) : IsReachedType schema primary type := by
  induction suffixes with
  | bare => exact known
  | array _ suffixed induction => exact .array induction suffixed

theorem is_reached_type_of_field (resolves : schema.Resolves primary) {name : String}
    {field : Field} (reached : schema.Reaches primary name) (hasField : schema.HasField name field)
    (formed : IsWellSuffixed field.type) : IsReachedType schema primary field.type := by
  obtain ⟨base, plain, suffixes⟩ := formed
  have same : baseName field.type = base := suffixes.base_name_eq plain
  apply suffixes.is_reached
  by_cases declared : schema.declares base = true
  · have mentions : schema.Mentions name base := ⟨declared, field, hasField, same⟩
    exact .struct plain declared (reached.tail mentions)
  · have known := resolves.known name field reached hasField
    rw [same] at known
    obtain ⟨primitive, named⟩ := Option.isSome_iff_exists.mp (known.resolve_left declared)
    exact .primitive ((Bool.not_eq_true _).mp declared) (Primitive.of_name_eq_some.1 named)

/-! ## Outcomes -/

/-- A result, or another error than that a type is unknown. -/
def TypesKnown {α : Type} (outcome : Except Error α) : Prop :=
  ∀ type, outcome ≠ .error (.unknownType type)

namespace TypesKnown

variable {α β : Type}

theorem of_ok (value : α) : TypesKnown (.ok value) := by
  intro type refused
  cases refused

theorem of_invalid (type reason : String) :
    TypesKnown (.error (.invalidValue type reason) : Except Error α) := by
  intro other refused
  cases refused

theorem bind {first : Except Error α} {next : α → Except Error β} (known : TypesKnown first)
    (later : ∀ value, first = .ok value → TypesKnown (next value)) :
    TypesKnown (first >>= next) := by
  cases first with
  | ok value => exact later value rfl
  | error e =>
      intro type refused
      cases refused
      exact known type rfl

theorem check_length (type : String) (expected : Option Nat) (actual : Nat) :
    TypesKnown (checkLength type expected actual) := by
  cases expected with
  | none => exact of_ok ()
  | some expected =>
      intro other refused
      rcases Outcome.passage_eq_error_iff.1 refused with ⟨-, counted⟩ | ⟨-, passed⟩
      · cases counted
      · cases passed

theorem encode_primitive {primitive : Primitive} {type : String} {json : Json} :
    TypesKnown (primitive.encode hash type json) := by
  intro other refused
  obtain ⟨reason, same⟩ := Primitive.invalid_of_encode_error refused
  cases same

theorem encode_items {items : List Json} {element : String}
    (each : ∀ item ∈ items, TypesKnown (encodeValue hash schema item element)) :
    TypesKnown (encodeItems hash schema items element) := by
  induction items with
  | nil => exact of_ok []
  | cons item rest induction =>
      have here := each item List.mem_cons_self
      have there := induction fun other listed => each other (List.mem_cons_of_mem item listed)
      rw [encodeItems]
      exact here.bind fun word _ => there.bind fun words _ => of_ok (word.toList ++ words)

theorem field_words {name : String} {members : Json.Object} {fields : List Field}
    (each : ∀ field ∈ fields, ∀ value, members.get? field.name = some value →
      TypesKnown (encodeValue hash schema value field.type)) :
    TypesKnown (fieldWords name (encodeMembers hash schema members) fields) := by
  induction fields with
  | nil => exact of_ok []
  | cons field rest induction =>
      have there := induction fun other listed => each other (List.mem_cons_of_mem field listed)
      rw [fieldWords, lookup_encodeMembers]
      cases found : members.get? field.name with
      | none =>
          intro type refused
          cases refused
      | some value =>
          have here := each field List.mem_cons_self value found
          exact here.bind fun word _ => there.bind fun words _ => of_ok (word.toList ++ words)

theorem encode_data {name : String} {members : Json.Object}
    (declared : schema.declares name = true)
    (each : ∀ field, schema.HasField name field → ∀ value, members.get? field.name = some value →
      TypesKnown (encodeValue hash schema value field.type)) :
    TypesKnown (encodeData hash schema name members) := by
  obtain ⟨fields, found⟩ := Schema.fields_of_declares declared
  rw [encodeData, structWords, found]
  apply field_words
  intro field listed
  exact each field ⟨fields, found, listed⟩

theorem hash_struct {name text : String} {members : Json.Object}
    (typed : schema.encodeType name = .ok text)
    (encoded : TypesKnown (encodeData hash schema name members)) :
    TypesKnown (hashStruct hash schema name members) := by
  have hashed : typeHash hash schema name = .ok (hash (utf8 text)) := by
    rw [typeHash, typed]
    rfl
  rw [hashStruct, structHash, hashed]
  exact encoded.bind fun words _ => of_ok (hash ((hash (utf8 text)).toList ++ words))

end TypesKnown

/-! ## Values of reached types -/

theorem resolves_of_reaches {name : String} (resolves : schema.Resolves primary)
    (reached : schema.Reaches primary name) : schema.Resolves name where
  declared := Schema.declares_of_reaches resolves.declared reached
  known other field later := resolves.known other field (reached.trans later)

/-- All field types in the structs that the primary one reaches have well-formed suffixes. -/
def Schema.SuffixesFormed (schema : Schema) (primary : String) : Prop :=
  ∀ name field, schema.Reaches primary name → schema.HasField name field →
    IsWellSuffixed field.type

theorem IsFieldType.well_suffixed {type : String} (isType : IsFieldType schema type)
    (plain : ∀ name, schema.declares name = true → IsPlainName name) : IsWellSuffixed type := by
  induction isType with
  | struct declared => exact ⟨_, plain _ declared, .bare⟩
  | primitive named => exact ⟨_, named.plain, .bare⟩
  | array _ suffixed induction =>
      obtain ⟨base, plainBase, suffixes⟩ := induction
      exact ⟨base, plainBase, suffixes.array suffixed⟩

theorem Schema.WellFormed.suffixes_formed (wellFormed : schema.WellFormed) :
    schema.SuffixesFormed primary := by
  intro name field _ hasField
  exact (wellFormed.typed name field hasField).well_suffixed wellFormed.plain

/-- Under every type that a reached struct may use, the value meets no unknown type. -/
def MeetsKnownTypes (hash : HashFunction) (schema : Schema) (primary : String) (json : Json) :
    Prop :=
  ∀ type, IsReachedType schema primary type → TypesKnown (encodeValue hash schema json type)

theorem struct_types_known (resolves : schema.Resolves primary)
    (formed : schema.SuffixesFormed primary) {name : String} {members : Json.Object}
    (reached : schema.Reaches primary name)
    (each : ∀ key value, members.get? key = some value →
      MeetsKnownTypes hash schema primary value) :
    TypesKnown (encodeData hash schema name members) ∧
      TypesKnown (hashStruct hash schema name members) := by
  have here : schema.Resolves name := resolves_of_reaches resolves reached
  obtain ⟨text, typed⟩ := Schema.type_string_of_resolves here
  have encoded : TypesKnown (encodeData hash schema name members) := by
    apply TypesKnown.encode_data here.declared
    intro field hasField value found
    apply each field.name value found
    exact is_reached_type_of_field resolves reached hasField (formed name field reached hasField)
  exact ⟨encoded, encoded.hash_struct typed⟩

/-- The type is free, so it may come back in a value inside of the value. -/
theorem meets_known_types (resolves : schema.Resolves primary)
    (formed : schema.SuffixesFormed primary) (json : Json) :
    MeetsKnownTypes hash schema primary json := by
  intro type reachedType
  cases reachedType with
  | primitive undeclared named =>
      rw [encode_value_of_primitive named.plain.shape_eq undeclared
        (Primitive.of_name_eq_some.2 named)]
      exact .encode_primitive
  | struct plain declared reached =>
      cases json with
      | object members =>
          have known : TypesKnown (hashStruct hash schema type members) := by
            refine (struct_types_known resolves formed reached ?_).2
            intro key value found
            have smaller := size_of_get_lt found
            exact meets_known_types resolves formed value
          simp only [encodeValue, plain.shape_eq, declared]
          exact known
      | _ =>
          simp only [encodeValue, plain.shape_eq, declared]
          exact .of_invalid _ _
  | @array element suffix length inner suffixed =>
      cases json with
      | array items =>
          have known : TypesKnown (encodeItems hash schema items element) := by
            apply TypesKnown.encode_items
            intro item listed
            have smaller := size_of_item_lt listed
            exact meets_known_types resolves formed item element inner
          simp only [encodeValue, suffixed.shape_eq]
          exact (TypesKnown.check_length _ length _).bind fun _ _ =>
            known.bind fun output _ => .of_ok (hash output)
      | _ =>
          simp only [encodeValue, suffixed.shape_eq]
          exact .of_invalid _ _
termination_by sizeOf json
decreasing_by all_goals assumption

/-- Where every field type reached has well-formed suffixes, a struct with a type string has no
message in which a type is unknown. -/
theorem well_suffixed_types_are_known (hash : HashFunction) (schema : Schema) (name text : String)
    (message : Json.Object) (typed : schema.encodeType name = .ok text)
    (formed : schema.SuffixesFormed name) :
    TypesKnown (encodeData hash schema name message) ∧
      TypesKnown (hashStruct hash schema name message) := by
  have resolves : schema.Resolves name := (Schema.encode_type_eq_ok.1 typed).1
  apply struct_types_known resolves formed .refl
  intro key value _
  exact meets_known_types resolves formed value

/-- A message may have nothing of what its schema asks for. -/
theorem order_types_are_known :
    ∃ text, Schema.orderSchema.encodeType "Order" = .ok text ∧
      Schema.orderSchema.SuffixesFormed "Order" ∧
      TypesKnown (encodeData (Octets.padRight 32) Schema.orderSchema "Order"
        [("maker", .bool true), ("legs", .array [.null])]) ∧
      TypesKnown (hashStruct (Octets.padRight 32) Schema.orderSchema "Order"
        [("maker", .bool true), ("legs", .array [.null])]) := by
  have resolves : Schema.orderSchema.Resolves "Order" := order_schema_well_formed.resolves rfl
  obtain ⟨text, typed⟩ := Schema.type_string_of_resolves resolves
  have formed : Schema.orderSchema.SuffixesFormed "Order" :=
    order_schema_well_formed.suffixes_formed
  exact ⟨text, typed, formed, well_suffixed_types_are_known _ _ _ _ _ typed formed⟩

/-! ## Suffixes that are not well formed -/

/-- A bracket that is never closed makes no array, and no name has a bracket. -/
theorem encode_value_of_open {front : List Char} {type : String}
    (ends : type.toList = front ++ ['[']) (undeclared : schema.declares type = false)
    (json : Json) : encodeValue hash schema json type = .error (.unknownType type) := by
  have single : shape type = .ok .single := by
    rw [shape, ends, List.reverse_concat]
    rfl
  have unnamed : Primitive.ofName? type = none := by
    rw [Option.eq_none_iff_forall_ne_some]
    intro primitive named
    apply (Primitive.of_name_eq_some.1 named).plain.1
    rw [ends]
    exact List.mem_append_right front List.mem_cons_self
  cases json <;> simp [encodeValue, single, undeclared, unnamed]

def openSchema : Schema := [("T", [⟨"v", "uint8["⟩])]

/-- The type string stops reading at the bracket, so it has the type that every value refuses. -/
theorem open_bracket_gets_a_type_string :
    openSchema.encodeType "T" = .ok "T(uint8[ v)" ∧
      encodeData (Octets.padRight 32) openSchema "T" [("v", .number (.integer 1))] =
        .error (.unknownType "uint8[") ∧
      hashStruct (Octets.padRight 32) openSchema "T" [("v", .number (.integer 1))] =
        .error (.unknownType "uint8[") := by
  have declared : openSchema.fields? "T" = some [⟨"v", "uint8["⟩] := rfl
  have typed : openSchema.encodeType "T" = .ok "T(uint8[ v)" := by
    rw [Schema.encode_type_of_primitives declared (by decide)]
    exact congrArg Except.ok (by decide)
  have ends : "uint8[".toList = "uint8".toList ++ ['['] := rfl
  have word : encodeValue (Octets.padRight 32) openSchema (.number (.integer 1)) "uint8[" =
      .error (.unknownType "uint8[") := encode_value_of_open ends rfl _
  have found : Json.Object.get? [("v", .number (.integer 1))] "v" =
      some (.number (.integer 1)) := rfl
  have words : structWords openSchema "T" (encodeMembers (Octets.padRight 32) openSchema
      [("v", .number (.integer 1))]) = .error (.unknownType "uint8[") := by
    rw [structWords, declared]
    change fieldWords _ _ _ = _
    rw [fieldWords, lookup_encodeMembers, found]
    exact congrArg (· >>= _) word
  refine ⟨typed, words, ?_⟩
  rw [hashStruct, structHash, typeHash, typed, words]
  rfl

end SignedTx.TypedData
