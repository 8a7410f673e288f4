import Mathlib.Data.List.Forall2
import SignedTx.Proofs.TypedData.CanonicalTypeString
import SignedTx.Proofs.TypedData.Content
import SignedTx.Proofs.TypedData.Encoding

/-!
# The reference encoding

On a well-formed schema a value conforms to a type by rules of its own, without the encoder: arrays
element by element, structs field by field, primitives by their content. A second set of rules gives
a conforming value its word. The encoder accepts exactly the values that conform and gives them that
word. Soundness is by recursion on the value, as the encoder's own is, so cyclic schemas need no
measure of their own; completeness is by induction on the rules.
-/

set_option autoImplicit false

namespace SignedTx.TypedData

/-! ## Well-formed schemas -/

/-- A declared struct or a primitive type with any number of array suffixes after it. -/
inductive IsFieldType (schema : Schema) : (type : String) → Prop
  | struct {type : String} (declared : schema.declares type = true) : IsFieldType schema type
  | primitive {type : String} {primitive : Primitive} (named : Primitive.Named type primitive) :
      IsFieldType schema type
  | array {element suffix : String} {length : Option Nat} (inner : IsFieldType schema element)
      (suffixed : IsSuffix suffix length) : IsFieldType schema (element ++ suffix)

/-- No struct's name has a bracket, and every declared field has a field type. -/
structure Schema.WellFormed (schema : Schema) : Prop where
  plain : ∀ name, schema.declares name = true → IsPlainName name
  typed : ∀ name field, schema.HasField name field → IsFieldType schema field.type

variable {hash : HashFunction} {schema : Schema}

theorem IsFieldType.knows {type : String} (isType : IsFieldType schema type)
    (plain : ∀ name, schema.declares name = true → IsPlainName name) :
    schema.Knows (baseName type) := by
  induction isType with
  | struct declared =>
      rw [(plain _ declared).base_name_eq]
      exact .inl declared
  | primitive named =>
      rw [named.plain.base_name_eq]
      exact .inr (Option.isSome_iff_exists.mpr ⟨_, Primitive.of_name_eq_some.2 named⟩)
  | array _ suffixed induction =>
      rw [suffixed.base_name_eq]
      exact induction

theorem Schema.WellFormed.resolves (wellFormed : schema.WellFormed) {name : String}
    (declared : schema.declares name = true) : schema.Resolves name :=
  Schema.resolves_of_known declared fun other field hasField =>
    (wellFormed.typed other field hasField).knows wellFormed.plain

/-! ## The rules -/

/-- The JSON value is one of the type. Members that are not declared count for nothing. -/
inductive Conforms (schema : Schema) : (type : String) → Json → Prop
  | primitive {type : String} {primitive : Primitive} {json : Json} {content : Content}
      (undeclared : schema.declares type = false) (named : Primitive.Named type primitive)
      (holds : primitive.Holds json content) : Conforms schema type json
  | struct {type : String} {fields : List Field} {members : Json.Object}
      (declared : schema.fields? type = some fields)
      (present : ∀ field ∈ fields, (members.get? field.name).isSome = true)
      (inside : ∀ field ∈ fields, ∀ value, members.get? field.name = some value →
        Conforms schema field.type value) : Conforms schema type (.object members)
  | array {element suffix : String} {length : Option Nat} {items : List Json}
      (suffixed : IsSuffix suffix length) (sized : ∀ n, length = some n → items.length = n)
      (inside : ∀ item ∈ items, Conforms schema element item) :
      Conforms schema (element ++ suffix) (.array items)

/-- Every field is present with a value that conforms. -/
def ConformsStruct (schema : Schema) (fields : List Field) (message : Json.Object) : Prop :=
  ∀ field ∈ fields, ∃ value, message.get? field.name = some value ∧
    Conforms schema field.type value

/-- The value conforms and has the word. A struct's word hashes its type's hash and its fields' words
in declaration order, an array's word hashes its elements' words. -/
inductive Encodes (hash : HashFunction) (schema : Schema) : (type : String) → Json → Digest → Prop
  | primitive {type : String} {primitive : Primitive} {json : Json} {content : Content}
      {word : Digest} (undeclared : schema.declares type = false)
      (named : Primitive.Named type primitive) (holds : primitive.Holds json content)
      (hasWord : content.HasWord hash word) : Encodes hash schema type json word
  | struct {type text : String} {fields : List Field} {members : Json.Object}
      {words : List Digest} (declared : schema.fields? type = some fields)
      (typed : schema.IsTypeString type text) (counted : fields.length = words.length)
      (present : ∀ field ∈ fields, (members.get? field.name).isSome = true)
      (inside : ∀ field word, (field, word) ∈ fields.zip words → ∀ value,
        members.get? field.name = some value → Encodes hash schema field.type value word) :
      Encodes hash schema type (.object members)
        (hash ((hash (utf8 text)).toList ++ words.flatMap Octets.toList))
  | array {element suffix : String} {length : Option Nat} {items : List Json}
      {words : List Digest} (suffixed : IsSuffix suffix length)
      (sized : ∀ n, length = some n → items.length = n) (counted : items.length = words.length)
      (inside : ∀ item word, (item, word) ∈ items.zip words →
        Encodes hash schema element item word) :
      Encodes hash schema (element ++ suffix) (.array items) (hash (words.flatMap Octets.toList))

/-- One word for each declared field, in declaration order. -/
def EncodesStruct (hash : HashFunction) (schema : Schema) (fields : List Field)
    (message : Json.Object) (words : List Digest) : Prop :=
  List.Forall₂ (fun field word => ∃ value, message.get? field.name = some value ∧
    Encodes hash schema field.type value word) fields words

theorem exists_mem_zip {α β : Type} {left : List α} {right : List β} {a : α}
    (counted : left.length = right.length) (listed : a ∈ left) :
    ∃ b, (a, b) ∈ left.zip right := by
  rw [← List.map_fst_zip (Nat.le_of_eq counted), List.mem_map] at listed
  obtain ⟨⟨_, b⟩, member, rfl⟩ := listed
  exact ⟨b, member⟩

theorem exists_related {α β : Type} {related : α → β → Prop} {left : List α}
    (each : ∀ a ∈ left, ∃ b, related a b) : ∃ right, List.Forall₂ related left right := by
  induction left with
  | nil => exact ⟨[], .nil⟩
  | cons a rest induction =>
      obtain ⟨b, here⟩ := each a (by simp)
      obtain ⟨right, later⟩ := induction fun other member => each other (by simp [member])
      exact ⟨b :: right, .cons here later⟩

theorem EncodesStruct.present {fields : List Field} {message : Json.Object} {words : List Digest}
    (encodes : EncodesStruct hash schema fields message words) {field : Field}
    (listed : field ∈ fields) : (message.get? field.name).isSome = true := by
  obtain ⟨counted, each⟩ := List.forall₂_iff_zip.mp encodes
  obtain ⟨word, member⟩ := exists_mem_zip counted listed
  obtain ⟨value, found, -⟩ := each member
  exact Option.isSome_iff_exists.mpr ⟨value, found⟩

theorem EncodesStruct.inside {fields : List Field} {message : Json.Object} {words : List Digest}
    (encodes : EncodesStruct hash schema fields message words) {field : Field} {word : Digest}
    {value : Json} (member : (field, word) ∈ fields.zip words)
    (found : message.get? field.name = some value) :
    Encodes hash schema field.type value word := by
  obtain ⟨_, otherFound, encoded⟩ := List.forall₂_zip encodes member
  cases found.symm.trans otherFound
  exact encoded

theorem EncodesStruct.hashes {type text : String} {fields : List Field} {message : Json.Object}
    {words : List Digest} (encodes : EncodesStruct hash schema fields message words)
    (declared : schema.fields? type = some fields) (typed : schema.IsTypeString type text) :
    Encodes hash schema type (.object message)
      (hash ((hash (utf8 text)).toList ++ words.flatMap Octets.toList)) :=
  .struct declared typed encodes.length_eq (fun _ listed => encodes.present listed)
    fun _ _ member _ found => encodes.inside member found

/-! ## Each type has one rule -/

theorem ConformsStruct.conforms {type : String} {fields : List Field} {message : Json.Object}
    (each : ConformsStruct schema fields message) (declared : schema.fields? type = some fields) :
    Conforms schema type (.object message) := by
  refine .struct declared ?_ ?_
  · intro field listed
    obtain ⟨value, found, -⟩ := each field listed
    exact Option.isSome_iff_exists.mpr ⟨value, found⟩
  · intro field listed value found
    obtain ⟨_, otherFound, conforms⟩ := each field listed
    cases found.symm.trans otherFound
    exact conforms

theorem conforms_to_struct_iff (wellFormed : schema.WellFormed) {type : String}
    {fields : List Field} {json : Json} (declared : schema.fields? type = some fields) :
    Conforms schema type json ↔
      ∃ message, json = .object message ∧ ConformsStruct schema fields message := by
  constructor
  · intro conforms
    have known := Schema.declares_of_fields declared
    cases conforms with
    | primitive undeclared =>
        rw [known] at undeclared
        cases undeclared
    | struct otherDeclared present inside =>
        cases declared.symm.trans otherDeclared
        refine ⟨_, rfl, ?_⟩
        intro field listed
        obtain ⟨value, found⟩ := Option.isSome_iff_exists.mp (present field listed)
        exact ⟨value, found, inside field listed value found⟩
    | array suffixed =>
        cases (wellFormed.plain _ known).shape_eq.symm.trans (suffixed.shape_eq _)
  · intro parts
    obtain ⟨message, rfl, each⟩ := parts
    exact each.conforms declared

/-- The last suffix is known from the type, so only the rule for arrays gives an array type. -/
theorem conforms_to_array_iff (wellFormed : schema.WellFormed) {element suffix : String}
    {length : Option Nat} {json : Json} (suffixed : IsSuffix suffix length) :
    Conforms schema (element ++ suffix) json ↔ ∃ items, json = .array items ∧
      (∀ n, length = some n → items.length = n) ∧
      ∀ item ∈ items, Conforms schema element item := by
  constructor
  · intro conforms
    have shaped := suffixed.shape_eq element
    generalize element ++ suffix = type at conforms shaped
    cases conforms with
    | primitive _ named => cases shaped.symm.trans named.plain.shape_eq
    | struct declared =>
        have plain := wellFormed.plain _ (Schema.declares_of_fields declared)
        cases shaped.symm.trans plain.shape_eq
    | array otherSuffixed sized inside =>
        cases shaped.symm.trans (otherSuffixed.shape_eq _)
        exact ⟨_, rfl, sized, inside⟩
  · intro parts
    obtain ⟨items, rfl, sized, inside⟩ := parts
    exact .array suffixed sized inside

/-! ## Values that conform have words -/

theorem Encodes.conforms {type : String} {json : Json} {word : Digest}
    (encodes : Encodes hash schema type json word) : Conforms schema type json := by
  induction encodes with
  | primitive undeclared named holds _ => exact .primitive undeclared named holds
  | struct declared _ counted present _ induction =>
      refine .struct declared present ?_
      intro field listed value found
      obtain ⟨word, member⟩ := exists_mem_zip counted listed
      exact induction field word member value found
  | array suffixed sized counted _ induction =>
      refine .array suffixed sized ?_
      intro item listed
      obtain ⟨word, member⟩ := exists_mem_zip counted listed
      exact induction item word member

theorem exists_field_words {fields : List Field} {message : Json.Object}
    (each : ∀ field ∈ fields, ∃ value, message.get? field.name = some value ∧
      ∃ word, Encodes hash schema field.type value word) :
    ∃ words, EncodesStruct hash schema fields message words := by
  apply exists_related
  intro field listed
  obtain ⟨value, found, word, encodes⟩ := each field listed
  exact ⟨word, value, found, encodes⟩

theorem Conforms.exists_word (wellFormed : schema.WellFormed) (hash : HashFunction)
    {type : String} {json : Json} (conforms : Conforms schema type json) :
    ∃ word, Encodes hash schema type json word := by
  induction conforms with
  | primitive undeclared named holds =>
      obtain ⟨word, hasWord⟩ := holds.exists_word named hash
      exact ⟨word, .primitive undeclared named holds hasWord⟩
  | @struct _ fields members declared present _ induction =>
      have each : ∃ words, EncodesStruct hash schema fields members words := by
        apply exists_field_words
        intro field listed
        obtain ⟨value, found⟩ := Option.isSome_iff_exists.mp (present field listed)
        exact ⟨value, found, induction field listed value found⟩
      obtain ⟨words, encodes⟩ := each
      obtain ⟨text, encoded⟩ := Schema.type_string_of_resolves
        (wellFormed.resolves (Schema.declares_of_fields declared))
      exact ⟨_, encodes.hashes declared (Schema.encode_type_eq_ok.1 encoded).2⟩
  | array suffixed sized _ induction =>
      obtain ⟨words, encodes⟩ := exists_related induction
      obtain ⟨counted, each⟩ := List.forall₂_iff_zip.mp encodes
      exact ⟨_, .array suffixed sized counted fun _ _ member => each member⟩

/-! ## The encoder follows the rules -/

theorem check_length_eq_ok {type : String} {expected : Option Nat} {actual : Nat} :
    checkLength type expected actual = .ok () ↔ ∀ n, expected = some n → actual = n := by
  cases expected with
  | none => simp [checkLength]
  | some expected => simp [checkLength, eq_comm]

/-- What is claimed of one value: a word it is given at a field type follows the rules. -/
def Follows (hash : HashFunction) (schema : Schema) (json : Json) : Prop :=
  ∀ (type : String) (word : Digest), IsFieldType schema type →
    encodeValue hash schema json type = .ok word → Encodes hash schema type json word

theorem encodes_struct_of_words (wellFormed : schema.WellFormed) {name : String}
    {fields : List Field} {message : Json.Object} {words : List Digest}
    (declared : schema.fields? name = some fields)
    (members : ∀ key value, message.get? key = some value → Follows hash schema value)
    (encoded : List.Forall₂ (fun field word => ∃ value, message.get? field.name = some value ∧
      encodeValue hash schema value field.type = .ok word) fields words) :
    EncodesStruct hash schema fields message words := by
  obtain ⟨counted, each⟩ := List.forall₂_iff_zip.mp encoded
  refine List.forall₂_iff_zip.mpr ⟨counted, ?_⟩
  intro field word member
  obtain ⟨value, found, encoded⟩ := each member
  have listed : field ∈ fields := (List.of_mem_zip member).1
  have isType := wellFormed.typed name field ⟨fields, declared, listed⟩
  exact ⟨value, found, members field.name value found field.type word isType encoded⟩

theorem encodes_of_hash_struct (wellFormed : schema.WellFormed) {type : String}
    {message : Json.Object} {word : Digest}
    (members : ∀ key value, message.get? key = some value → Follows hash schema value)
    (hashed : hashStruct hash schema type message = .ok word) :
    Encodes hash schema type (.object message) word := by
  obtain ⟨typeWord, output, typed, encoded, rfl⟩ := hash_struct_eq_ok.1 hashed
  obtain ⟨fields, declared, -⟩ := encode_data_eq_ok.1 encoded
  obtain ⟨words, each, rfl⟩ := (encode_data_eq_ok_of_fields declared).mp encoded
  obtain ⟨text, found, rfl⟩ := Outcome.map_eq_ok_iff.1 typed
  exact (encodes_struct_of_words wellFormed declared members each).hashes declared
    (Schema.encode_type_eq_ok.1 found).2

theorem encodes_array {items : List Json} {element suffix : String} {length : Option Nat}
    {word : Digest} (inner : IsFieldType schema element) (suffixed : IsSuffix suffix length)
    (elements : ∀ item ∈ items, Follows hash schema item)
    (encoded : encodeValue hash schema (.array items) (element ++ suffix) = .ok word) :
    Encodes hash schema (element ++ suffix) (.array items) word := by
  obtain ⟨_, output, same, checked, output_eq, rfl⟩ :=
    (encode_value_eq_ok_of_array (suffixed.shape_eq element)).mp encoded
  cases same
  obtain ⟨words, each, rfl⟩ := encode_items_eq_ok.1 output_eq
  obtain ⟨counted, each⟩ := List.forall₂_iff_zip.mp each
  refine .array suffixed (check_length_eq_ok.1 checked) counted ?_
  intro item word member
  exact elements item (List.of_mem_zip member).1 element word inner (each member)

/-- The type is free, so it may come back in a value inside of the value. -/
theorem value_follows (wellFormed : schema.WellFormed) (json : Json) : Follows hash schema json := by
  intro type word isType encoded
  -- A name that is declared is a struct's, also if a primitive has it.
  by_cases declared : schema.declares type = true
  · obtain ⟨message, rfl, hashed⟩ := (encode_value_eq_ok_of_struct
      (wellFormed.plain type declared).shape_eq declared).mp encoded
    refine encodes_of_hash_struct wellFormed ?_ hashed
    intro key value found
    have smaller := size_of_get_lt found
    exact value_follows wellFormed value
  have undeclared : schema.declares type = false := (Bool.not_eq_true _).mp declared
  cases isType with
  | struct known => exact absurd known declared
  | primitive named =>
      obtain ⟨primitive, found, encoded⟩ :=
        (encode_value_eq_ok_of_primitive named.plain.shape_eq undeclared).mp encoded
      have named := Primitive.of_name_eq_some.1 found
      obtain ⟨content, holds, hasWord⟩ := (Primitive.encode_eq_ok named).mp encoded
      exact .primitive undeclared named holds hasWord
  | @array element _ _ inner suffixed =>
      obtain ⟨items, _, rfl, -⟩ :=
        (encode_value_eq_ok_of_array (suffixed.shape_eq element)).mp encoded
      refine encodes_array inner suffixed ?_ encoded
      intro item member
      have smaller := size_of_item_lt member
      exact value_follows wellFormed item
termination_by sizeOf json

theorem encode_value_of_encodes (wellFormed : schema.WellFormed) {type : String} {json : Json}
    {word : Digest} (encodes : Encodes hash schema type json word) :
    encodeValue hash schema json type = .ok word := by
  induction encodes with
  | primitive undeclared named holds hasWord =>
      exact (encode_value_eq_ok_of_primitive named.plain.shape_eq undeclared).mpr
        ⟨_, Primitive.of_name_eq_some.2 named, (Primitive.encode_eq_ok named).mpr
          ⟨_, holds, hasWord⟩⟩
  | struct declared typed counted present _ induction =>
      have known := Schema.declares_of_fields declared
      have encoded := Schema.encode_type_eq_ok.2 ⟨wellFormed.resolves known, typed⟩
      refine (encode_value_eq_ok_of_struct (wellFormed.plain _ known).shape_eq known).mpr
        ⟨_, rfl, hash_struct_of_words encoded (encode_data_of_words declared ?_)⟩
      refine List.forall₂_iff_zip.mpr ⟨counted, ?_⟩
      intro field word member
      obtain ⟨value, found⟩ :=
        Option.isSome_iff_exists.mp (present field (List.of_mem_zip member).1)
      exact ⟨value, found, induction field word member value found⟩
  | @array element _ _ _ _ suffixed sized counted _ induction =>
      refine (encode_value_eq_ok_of_array (suffixed.shape_eq element)).mpr
        ⟨_, _, rfl, check_length_eq_ok.2 sized, encode_items_eq_ok.2 ⟨_, ?_, rfl⟩, rfl⟩
      exact List.forall₂_iff_zip.mpr ⟨counted, fun member => induction _ _ member⟩

theorem encode_data_eq_ok_iff_encodes (wellFormed : schema.WellFormed) {name : String}
    {fields : List Field} {message : Json.Object} {output : List UInt8}
    (declared : schema.fields? name = some fields) :
    encodeData hash schema name message = .ok output ↔ ∃ words,
      EncodesStruct hash schema fields message words ∧ output = words.flatMap Octets.toList := by
  rw [encode_data_eq_ok_of_fields declared]
  refine exists_congr fun words => and_congr_left fun _ => ⟨?_, ?_⟩
  · exact encodes_struct_of_words wellFormed declared fun _ value _ => value_follows wellFormed value
  · intro encodes
    refine encodes.imp ?_
    intro field word found
    obtain ⟨value, found, encoded⟩ := found
    exact ⟨value, found, encode_value_of_encodes wellFormed encoded⟩

theorem conforms_iff_has_words (wellFormed : schema.WellFormed) (hash : HashFunction)
    {fields : List Field} {message : Json.Object} :
    ConformsStruct schema fields message ↔
      ∃ words, EncodesStruct hash schema fields message words := by
  constructor
  · intro conforms
    apply exists_field_words
    intro field listed
    obtain ⟨value, found, inside⟩ := conforms field listed
    exact ⟨value, found, inside.exists_word wellFormed hash⟩
  · intro parts field listed
    obtain ⟨words, encodes⟩ := parts
    obtain ⟨word, member⟩ := exists_mem_zip encodes.length_eq listed
    obtain ⟨value, found, inside⟩ := List.forall₂_zip encodes member
    exact ⟨value, found, inside.conforms⟩

/-- On a well-formed schema the message of a declared struct is encoded if and only if it conforms,
and then as one word for each declared field, in declaration order, by the reference rules. The
message is finite and each step goes to a part of it, so cyclic schemas are no exception. -/
theorem encode_data_follows_reference (hash : HashFunction) (schema : Schema) (name : String)
    (fields : List Field) (message : Json.Object) (wellFormed : schema.WellFormed)
    (declared : schema.fields? name = some fields) :
    ((∃ output, encodeData hash schema name message = .ok output) ↔
      ConformsStruct schema fields message) ∧
      ∀ output, encodeData hash schema name message = .ok output ↔ ∃ words : List Digest,
        EncodesStruct hash schema fields message words ∧ output = words.flatMap Octets.toList := by
  refine ⟨?_, fun _ => encode_data_eq_ok_iff_encodes wellFormed declared⟩
  rw [conforms_iff_has_words wellFormed hash]
  constructor
  · intro parts
    obtain ⟨output, encoded⟩ := parts
    obtain ⟨words, encodes, -⟩ := (encode_data_eq_ok_iff_encodes wellFormed declared).mp encoded
    exact ⟨words, encodes⟩
  · intro parts
    obtain ⟨words, encodes⟩ := parts
    exact ⟨_, (encode_data_eq_ok_iff_encodes wellFormed declared).mpr ⟨words, encodes, rfl⟩⟩

/-! ## Orders and their legs -/

theorem is_width_two : IsWidth ['2'] 2 :=
  ⟨by simp, ⟨[2], .cons rfl .nil, rfl⟩, by decide⟩

theorem order_schema_well_formed : Schema.orderSchema.WellFormed := by
  have leg : IsFieldType Schema.orderSchema "Leg" := .struct rfl
  have pair : IsFieldType Schema.orderSchema "Leg[2]" := .array leg (.fixed is_width_two)
  constructor
  · intro name declared
    obtain ⟨fields, found⟩ := Schema.fields_of_declares declared
    have listed : name ∈ ["Person", "Order", "Leg"] := Schema.mem_names_of_fields? found
    simp only [List.mem_cons, List.not_mem_nil, or_false] at listed
    rcases listed with rfl | rfl | rfl <;> decide
  · intro name field hasField
    have listed := Schema.order_field_types hasField
    simp only [List.mem_cons, List.not_mem_nil, or_false] at listed
    rcases listed with same | same | same | same | same <;> rw [same]
    · exact .primitive .address
    · exact .struct rfl
    · exact .array leg .dynamic
    · exact .array pair .dynamic
    · exact .struct rfl

/-- An order of the account of zeros. -/
def order (legs : List Json) : Json.Object :=
  [("maker", .object [("wallet", .string (Hex.encodeMarked (Octets.zero 20).toList))]),
   ("legs", .array legs)]

def leg (parts : List Json) : Json :=
  .object [("parts", .array parts), ("order", .object (order []))]

theorem maker_conforms : Conforms Schema.orderSchema "Person"
    (.object [("wallet", .string (Hex.encodeMarked (Octets.zero 20).toList))]) := by
  have wallet : Conforms Schema.orderSchema "address"
      (.string (Hex.encodeMarked (Octets.zero 20).toList)) :=
    .primitive rfl .address
      (.address (Hex.decode_fixed_eq_ok.1 (Hex.decode_fixed_encode_marked (Octets.zero 20))))
  refine (conforms_to_struct_iff order_schema_well_formed rfl).mpr ⟨_, rfl, ?_⟩
  intro field listed
  cases List.mem_singleton.mp listed
  exact ⟨_, rfl, wallet⟩

theorem legs_conform_iff {legs : List Json} :
    Conforms Schema.orderSchema ("Leg" ++ "[]") (.array legs) ↔
      ∀ item ∈ legs, Conforms Schema.orderSchema "Leg" item := by
  rw [conforms_to_array_iff order_schema_well_formed .dynamic]
  simp

theorem pair_conforms_iff {legs : List Json} :
    Conforms Schema.orderSchema ("Leg" ++ "[2]") (.array legs) ↔
      legs.length = 2 ∧ ∀ item ∈ legs, Conforms Schema.orderSchema "Leg" item := by
  have suffixed : IsSuffix "[2]" (some 2) := .fixed is_width_two
  rw [conforms_to_array_iff order_schema_well_formed suffixed]
  simp

theorem order_conforms_iff {legs : List Json} :
    ConformsStruct Schema.orderSchema [⟨"maker", "Person"⟩, ⟨"legs", "Leg[]"⟩] (order legs) ↔
      ∀ item ∈ legs, Conforms Schema.orderSchema "Leg" item := by
  rw [← legs_conform_iff, ConformsStruct, List.forall_mem_cons, List.forall_mem_singleton]
  constructor
  · intro parts
    obtain ⟨-, _, found, array⟩ := parts
    cases found
    exact array
  · intro array
    exact ⟨⟨_, rfl, maker_conforms⟩, _, rfl, array⟩

theorem leg_conforms_iff {parts : List Json} :
    Conforms Schema.orderSchema "Leg" (leg parts) ↔
      ∀ pair ∈ parts, Conforms Schema.orderSchema "Leg[2]" pair := by
  have pairs : Conforms Schema.orderSchema ("Leg[2]" ++ "[]") (.array parts) ↔
      ∀ pair ∈ parts, Conforms Schema.orderSchema "Leg[2]" pair := by
    rw [conforms_to_array_iff order_schema_well_formed .dynamic]
    simp
  have empty : Conforms Schema.orderSchema "Order" (.object (order [])) :=
    ConformsStruct.conforms (order_conforms_iff.2 (by simp)) rfl
  rw [conforms_to_struct_iff order_schema_well_formed rfl, ← pairs]
  constructor
  · intro found
    obtain ⟨message, same, each⟩ := found
    cases same
    obtain ⟨_, found, array⟩ := each ⟨"parts", "Leg[2][]"⟩ (by simp)
    cases found
    exact array
  · intro array
    refine ⟨_, rfl, ?_⟩
    rw [ConformsStruct, List.forall_mem_cons, List.forall_mem_singleton]
    exact ⟨⟨_, rfl, array⟩, _, rfl, empty⟩

/-- The structs hold values of one another and of themselves; a pair of one leg is refused. -/
theorem cyclic_order_is_encoded :
    (∃ output, encodeData (Octets.padRight 32) Schema.orderSchema "Order"
      (order [leg [.array [leg [], leg []]]]) = .ok output) ∧
      ¬ ∃ output, encodeData (Octets.padRight 32) Schema.orderSchema "Order"
        (order [leg [.array [leg []]]]) = .ok output := by
  have short : Conforms Schema.orderSchema "Leg" (leg []) := leg_conforms_iff.2 (by simp)
  constructor
  · have pair : Conforms Schema.orderSchema "Leg[2]" (.array [leg [], leg []]) :=
      pair_conforms_iff.2 ⟨rfl, by simp [short]⟩
    refine (encode_data_follows_reference _ _ _ _ _ order_schema_well_formed rfl).1.mpr ?_
    apply order_conforms_iff.2
    simp [leg_conforms_iff, pair]
  · intro encoded
    have conforms :=
      (encode_data_follows_reference _ _ _ _ _ order_schema_well_formed rfl).1.mp encoded
    have long := order_conforms_iff.1 conforms (leg [.array [leg []]]) (by simp)
    have single : Conforms Schema.orderSchema ("Leg" ++ "[2]") (.array [leg []]) :=
      leg_conforms_iff.1 long _ (by simp)
    cases (pair_conforms_iff.1 single).1

end SignedTx.TypedData
