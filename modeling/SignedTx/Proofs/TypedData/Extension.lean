import SignedTx.Proofs.Json.Object
import SignedTx.Proofs.TypedData.CanonicalTypeString
import SignedTx.Proofs.TypedData.StructBinding
import SignedTx.Proofs.TypedData.TypeName

/-!
# Hashes see nothing that is not declared or not reached

A schema may get further structs under names that no field type has as its base, and a message
further members that the struct they stand in does not declare. Neither changes a struct hash. The
walk over the schema meets the bases of field types only, and at these both schemas hold the same; a
value is encoded at a declared struct or at a primitive whose name is such a base. Under a larger
schema only results are claimed to stay: a type that was unknown may become known.
-/

set_option autoImplicit false

namespace SignedTx

namespace TypedData

variable {hash : HashFunction} {schema extended : Schema}

/-! ## Further structs -/

namespace Schema

/-- The structs of the schema stay as they are, and the further ones have names that are the base of
no field type in it. -/
structure Extends (schema extended : Schema) : Prop where
  kept : ∀ name, schema.declares name = true → extended.fields? name = schema.fields? name
  apart : ∀ name, schema.declares name = false → extended.declares name = true →
    ∀ owner field, schema.HasField owner field → baseName field.type ≠ name

theorem fields_append (left right : Schema) (name : String) :
    (left ++ right).fields? name = (left.fields? name).or (right.fields? name) :=
  List.lookup_append

/-- Definitions may be added on either side of those that are there. -/
theorem extends_of_added {before after : Schema}
    (fresh : ∀ name, (before ++ after).declares name = true → schema.declares name = false ∧
      ∀ owner field, schema.HasField owner field → baseName field.type ≠ name) :
    schema.Extends (before ++ (schema ++ after)) where
  kept name declared := by
    obtain ⟨fields, found⟩ := fields_of_declares declared
    have absent : before.fields? name = none := by
      cases added : before.fields? name with
      | none => rfl
      | some others =>
          have undeclared := (fresh name (by rw [declares, fields_append, added]; rfl)).1
          rw [declared] at undeclared
          cases undeclared
    rw [fields_append, absent, fields_append, found]
    rfl
  apart name undeclared declared := by
    rw [declares, Option.isSome_eq_false_iff, Option.isNone_iff_eq_none] at undeclared
    rw [declares, fields_append, fields_append, undeclared, Option.none_or,
      ← fields_append] at declared
    exact (fresh name declared).2

namespace Extends

theorem declares_of_declares (larger : schema.Extends extended) {name : String}
    (declared : schema.declares name = true) : extended.declares name = true := by
  rw [declares, larger.kept name declared]
  exact declared

/-- At the base of a field type the two schemas hold the same, a struct or nothing. -/
theorem fields_at_base (larger : schema.Extends extended) {owner : String} {field : Field}
    (hasField : schema.HasField owner field) :
    extended.fields? (baseName field.type) = schema.fields? (baseName field.type) := by
  by_cases declared : schema.declares (baseName field.type) = true
  · exact larger.kept _ declared
  · have undeclared : schema.declares (baseName field.type) = false :=
      (Bool.not_eq_true _).mp declared
    have absent : ¬ extended.declares (baseName field.type) = true := by
      intro added
      exact larger.apart _ undeclared added owner field hasField rfl
    rw [declares, Option.not_isSome_iff_eq_none] at absent declared
    rw [absent, declared]

/-- The induction is along the walk over the smaller schema. What becomes pending on the way are
fields of that schema again. -/
theorem reach_eq (larger : schema.Extends extended) (seen : List String) (pending : List Field)
    (within : ∀ field ∈ pending, ∃ owner, schema.HasField owner field) :
    extended.reach seen pending = schema.reach seen pending := by
  induction seen, pending using reach.induct schema with
  | case1 seen => rw [reach, reach]
  | case2 seen field rest base fields declared known induction =>
      obtain ⟨owner, hasField⟩ := within field List.mem_cons_self
      have declaredToo := (larger.fields_at_base hasField).trans declared
      rw [reach_of_seen declared known, reach_of_seen declaredToo known]
      exact induction fun other listed => within other (List.mem_cons_of_mem field listed)
  | case3 seen field rest base fields declared fresh induction =>
      obtain ⟨owner, hasField⟩ := within field List.mem_cons_self
      have declaredToo := (larger.fields_at_base hasField).trans declared
      have absent : seen.contains base = false := (Bool.not_eq_true _).mp fresh
      rw [reach_of_fresh declared absent, reach_of_fresh declaredToo absent]
      apply induction
      intro other listed
      rcases List.mem_append.mp listed with inner | later
      · exact ⟨base, fields, declared, inner⟩
      · exact within other (List.mem_cons_of_mem field later)
  | case4 seen field rest base undeclared named induction =>
      obtain ⟨owner, hasField⟩ := within field List.mem_cons_self
      have undeclaredToo := (larger.fields_at_base hasField).trans undeclared
      rw [reach_of_primitive ⟨undeclared, named⟩, reach_of_primitive ⟨undeclaredToo, named⟩]
      exact induction fun other listed => within other (List.mem_cons_of_mem field listed)
  | case5 seen field rest base undeclared unnamed =>
      obtain ⟨owner, hasField⟩ := within field List.mem_cons_self
      have undeclaredToo := (larger.fields_at_base hasField).trans undeclared
      rw [reach_of_unknown undeclared unnamed, reach_of_unknown undeclaredToo unnamed]

theorem definitions_eq (larger : schema.Extends extended) {names : List String}
    (declared : ∀ name ∈ names, schema.declares name = true) :
    extended.definitions names = schema.definitions names := by
  induction names with
  | nil => rfl
  | cons name rest induction =>
      rw [definitions, definitions, larger.kept name (declared name List.mem_cons_self),
        induction fun other listed => declared other (List.mem_cons_of_mem name listed)]

/-- The type string of a declared struct stays, and so does the fault of one that has none. -/
theorem encode_type_eq (larger : schema.Extends extended) {name : String}
    (declared : schema.declares name = true) :
    extended.encodeType name = schema.encodeType name := by
  obtain ⟨fields, found⟩ := fields_of_declares declared
  have foundToo := (larger.kept name declared).trans found
  have walks : extended.dependencies name = schema.dependencies name := by
    rw [dependencies_of_fields found, dependencies_of_fields foundToo]
    exact larger.reach_eq [name] fields fun field listed => ⟨name, fields, found, listed⟩
  rw [encodeType, encodeType, walks]
  cases walked : schema.dependencies name with
  | error e => rfl
  | ok reached =>
      obtain ⟨-, mem_iff, -⟩ := reached_of_dependencies walked
      apply larger.definitions_eq
      intro other listed
      rcases List.mem_cons.mp listed with rfl | later
      · exact declared
      · rw [List.mem_mergeSort] at later
        exact declares_of_reaches declared ((mem_iff other).mp (List.mem_filter.mp later).1)

end Extends
end Schema

/-! ## Values under further structs -/

/-- The base of the type is the base of a declared field's type. -/
def StandsIn (schema : Schema) (type : String) : Prop :=
  ∃ owner field, schema.HasField owner field ∧ baseName field.type = baseName type

theorem StandsIn.element {type element : String} {length : Option Nat}
    (stands : StandsIn schema type) (array : shape type = .ok (.array element length)) :
    StandsIn schema element := by
  obtain ⟨owner, field, hasField, same⟩ := stands
  obtain ⟨suffix, rfl, suffixed⟩ := suffix_of_shape array
  exact ⟨owner, field, hasField, same.trans (suffixed.base_name_eq element)⟩

/-- A primitive's name is its own base, so no further struct has it. -/
theorem Schema.Extends.primitive_undeclared (larger : schema.Extends extended) {type : String}
    {primitive : Primitive} (stands : StandsIn schema type)
    (undeclared : schema.declares type = false)
    (named : Primitive.ofName? type = some primitive) : extended.declares type = false := by
  obtain ⟨owner, field, hasField, same⟩ := stands
  have plain := (Primitive.of_name_eq_some.1 named).plain
  rw [plain.base_name_eq] at same
  have here := larger.fields_at_base hasField
  rw [same] at here
  rw [Schema.declares, here]
  exact undeclared

/-- What is claimed of one value: a word that it has at the type of a field stays. -/
def KeepsWords (hash : HashFunction) (schema extended : Schema) (json : Json) : Prop :=
  ∀ (type : String) (word : Digest), StandsIn schema type →
    encodeValue hash schema json type = .ok word → encodeValue hash extended json type = .ok word

theorem hash_struct_of_extends (larger : schema.Extends extended) {name : String}
    {message : Json.Object} {digest : Digest}
    (members : ∀ key value, message.get? key = some value → KeepsWords hash schema extended value)
    (hashed : hashStruct hash schema name message = .ok digest) :
    hashStruct hash extended name message = .ok digest := by
  obtain ⟨type, words, typed, encoded, digestEq⟩ := hash_struct_eq_ok.1 hashed
  obtain ⟨fields, found, -⟩ := encode_data_eq_ok.1 encoded
  obtain ⟨each, fieldWords, wordsEq⟩ := (encode_data_eq_ok_of_fields found).mp encoded
  have declared := Schema.declares_of_fields found
  have foundToo := (larger.kept name declared).trans found
  have typedToo : typeHash hash extended name = .ok type := by
    rw [typeHash, larger.encode_type_eq declared]
    exact typed
  refine hash_struct_eq_ok.2 ⟨type, words, typedToo, ?_, digestEq⟩
  refine (encode_data_eq_ok_of_fields foundToo).mpr ⟨each, ?_, wordsEq⟩
  obtain ⟨counted, pairs⟩ := List.forall₂_iff_zip.mp fieldWords
  refine List.forall₂_iff_zip.mpr ⟨counted, ?_⟩
  intro field word listed
  obtain ⟨value, inMessage, here⟩ := pairs listed
  have stands : StandsIn schema field.type :=
    ⟨name, field, ⟨fields, found, (List.of_mem_zip listed).1⟩, rfl⟩
  exact ⟨value, inMessage, members field.name value inMessage field.type word stands here⟩

/-- The type is free, so it may come back in a value inside of the value. -/
theorem keeps_words (larger : schema.Extends extended) (json : Json) :
    KeepsWords hash schema extended json := by
  intro type word stands encoded
  cases shaped : shape type with
  | error e =>
      rw [encode_value_of_shape_error shaped] at encoded
      cases encoded
  | ok form =>
      cases form with
      | array element length =>
          obtain ⟨items, output, rfl, checked, each, wordEq⟩ :=
            (encode_value_eq_ok_of_array shaped).mp encoded
          obtain ⟨words, related, outputEq⟩ := encode_items_eq_ok.1 each
          obtain ⟨counted, pairs⟩ := List.forall₂_iff_zip.mp related
          have later : encodeItems hash extended items element = .ok output := by
            refine encode_items_eq_ok.2
              ⟨words, List.forall₂_iff_zip.mpr ⟨counted, ?_⟩, outputEq⟩
            intro item itemWord listed
            have member : item ∈ items := (List.of_mem_zip listed).1
            have smaller := size_of_item_lt member
            exact keeps_words larger item element itemWord (stands.element shaped) (pairs listed)
          exact (encode_value_eq_ok_of_array shaped).mpr
            ⟨items, output, rfl, checked, later, wordEq⟩
      | single =>
          cases declared : schema.declares type with
          | true =>
              obtain ⟨members, rfl, hashed⟩ :=
                (encode_value_eq_ok_of_struct shaped declared).mp encoded
              have later : hashStruct hash extended type members = .ok word := by
                refine hash_struct_of_extends larger ?_ hashed
                intro key value found
                have smaller := size_of_get_lt found
                exact keeps_words larger value
              exact (encode_value_eq_ok_of_struct shaped
                (larger.declares_of_declares declared)).mpr ⟨members, rfl, later⟩
          | false =>
              obtain ⟨primitive, named, here⟩ :=
                (encode_value_eq_ok_of_primitive shaped declared).mp encoded
              exact (encode_value_eq_ok_of_primitive shaped
                (larger.primitive_undeclared stands declared named)).mpr ⟨primitive, named, here⟩
termination_by sizeOf json

/-! ## Members that are not declared -/

/-- The values differ at most in members that the struct an object in them is encoded as does not
declare. -/
inductive Agree (schema : Schema) : (type : String) → Json → Json → Prop
  | same {type : String} {json : Json} : Agree schema type json json
  | array {type element : String} {length : Option Nat} {left right : List Json}
      (array : shape type = .ok (.array element length)) (counted : left.length = right.length)
      (inside : ∀ item other, (item, other) ∈ left.zip right → Agree schema element item other) :
      Agree schema type (.array left) (.array right)
  | struct {type : String} {left right : Json.Object} (single : shape type = .ok .single)
      (declared : schema.declares type = true)
      (present : ∀ field, schema.HasField type field →
        (left.get? field.name).isSome = (right.get? field.name).isSome)
      (inside : ∀ field, schema.HasField type field → ∀ value other,
        left.get? field.name = some value → right.get? field.name = some other →
        Agree schema field.type value other) :
      Agree schema type (.object left) (.object right)

/-- The messages differ at most in members that are not declared, in themselves as values of the
struct and in all objects inside of them. -/
structure AgreeOnDeclared (schema : Schema) (name : String) (left right : Json.Object) : Prop where
  present : ∀ field, schema.HasField name field →
    (left.get? field.name).isSome = (right.get? field.name).isSome
  inside : ∀ field, schema.HasField name field → ∀ value other,
    left.get? field.name = some value → right.get? field.name = some other →
    Agree schema field.type value other

theorem AgreeOnDeclared.refl (schema : Schema) (name : String) (message : Json.Object) :
    AgreeOnDeclared schema name message message where
  present _ _ := rfl
  inside field _ value other found otherFound := by
    cases found.symm.trans otherFound
    exact .same

/-- A member under a key that is not declared may be put in or changed. -/
theorem AgreeOnDeclared.insert {name key : String} {left right : Json.Object}
    (agree : AgreeOnDeclared schema name left right)
    (undeclared : ∀ field, schema.HasField name field → field.name ≠ key) (value : Json) :
    AgreeOnDeclared schema name left (right.insert key value) where
  present field hasField := by
    rw [Json.Object.get_insert, if_neg (undeclared field hasField)]
    exact agree.present field hasField
  inside field hasField found other inLeft inRight := by
    rw [Json.Object.get_insert, if_neg (undeclared field hasField)] at inRight
    exact agree.inside field hasField found other inLeft inRight

theorem encode_items_congr {element : String} {left right : List Json}
    (counted : left.length = right.length)
    (each : ∀ item other, (item, other) ∈ left.zip right →
      encodeValue hash schema item element = encodeValue hash schema other element) :
    encodeItems hash schema left element = encodeItems hash schema right element := by
  induction left generalizing right with
  | nil => rw [List.length_eq_zero_iff.mp counted.symm]
  | cons item rest induction =>
      cases right with
      | nil => cases counted
      | cons other others =>
          rw [encodeItems, encodeItems, each item other List.mem_cons_self,
            induction (Nat.succ.inj counted) fun first second listed =>
              each first second (List.mem_cons_of_mem _ listed)]

/-- Only the encoded values of declared fields show in a struct's words. -/
theorem field_words_congr {name : String} {fields : List Field} {left right : Json.Object}
    (each : ∀ field ∈ fields,
      (left.get? field.name).map (encodeValue hash schema · field.type) =
        (right.get? field.name).map (encodeValue hash schema · field.type)) :
    fieldWords name (encodeMembers hash schema left) fields =
      fieldWords name (encodeMembers hash schema right) fields := by
  induction fields with
  | nil => rfl
  | cons field rest induction =>
      have here := each field List.mem_cons_self
      have later := induction fun other listed => each other (List.mem_cons_of_mem field listed)
      rw [fieldWords, fieldWords, lookup_encodeMembers, lookup_encodeMembers, later]
      generalize left.get? field.name = inLeft, right.get? field.name = inRight at here ⊢
      cases inLeft with
      | none =>
          cases inRight with
          | none => rfl
          | some other => cases here
      | some value =>
          cases inRight with
          | none => cases here
          | some other =>
              rw [Option.map_some, Option.map_some, Option.some.injEq] at here
              simp only [Option.map_some, here]

theorem hash_struct_congr {name : String} {left right : Json.Object}
    (present : ∀ field, schema.HasField name field →
      (left.get? field.name).isSome = (right.get? field.name).isSome)
    (inside : ∀ field, schema.HasField name field → ∀ value other,
      left.get? field.name = some value → right.get? field.name = some other →
      encodeValue hash schema value field.type = encodeValue hash schema other field.type) :
    hashStruct hash schema name left = hashStruct hash schema name right := by
  have words : structWords schema name (encodeMembers hash schema left) =
      structWords schema name (encodeMembers hash schema right) := by
    rw [structWords, structWords]
    cases found : schema.fields? name with
    | none => rfl
    | some fields =>
        apply field_words_congr
        intro field listed
        have hasField : schema.HasField name field := ⟨fields, found, listed⟩
        have both := present field hasField
        have equal := inside field hasField
        generalize left.get? field.name = inLeft, right.get? field.name = inRight at both equal ⊢
        cases inLeft with
        | none =>
            cases inRight with
            | none => rfl
            | some other => cases both
        | some value =>
            cases inRight with
            | none => cases both
            | some other => rw [Option.map_some, Option.map_some, equal value other rfl rfl]
  rw [hashStruct, hashStruct, structHash, structHash, words]

theorem encode_value_of_agree {type : String} {left right : Json}
    (agree : Agree schema type left right) :
    encodeValue hash schema left type = encodeValue hash schema right type := by
  induction agree with
  | same => rfl
  | array array counted _ induction =>
      rw [encode_value_eq, encode_value_eq, array]
      simp only [counted, encode_items_congr counted induction]
  | struct single declared present _ induction =>
      rw [encode_value_eq, encode_value_eq, single]
      simp only [declared, if_true]
      exact hash_struct_congr present induction

theorem hash_struct_of_agree {name : String} {left right : Json.Object}
    (agree : AgreeOnDeclared schema name left right) :
    hashStruct hash schema name left = hashStruct hash schema name right :=
  hash_struct_congr agree.present fun field hasField value other found otherFound =>
    encode_value_of_agree (agree.inside field hasField value other found otherFound)

end TypedData

open TypedData

/-- A message that has a struct hash keeps it under a larger schema, with other members that are not
declared, and with both. -/
theorem struct_hash_sees_only_what_is_reached (hash : HashFunction) (schema extended : Schema)
    (name : String) (message changed : Json.Object) (digest : Digest)
    (hashed : hashStruct hash schema name message = .ok digest)
    (larger : schema.Extends extended) (agree : AgreeOnDeclared schema name message changed) :
    hashStruct hash extended name message = .ok digest ∧
      hashStruct hash schema name changed = .ok digest ∧
      hashStruct hash extended name changed = .ok digest := by
  have same : hashStruct hash schema name changed = .ok digest := by
    rw [← hash_struct_of_agree agree]
    exact hashed
  refine ⟨?_, same, ?_⟩
  · exact hash_struct_of_extends larger (fun _ value _ => keeps_words larger value) hashed
  · exact hash_struct_of_extends larger (fun _ value _ => keeps_words larger value) same

/-! ## A chain with notes -/

theorem field_of_node {owner : String} {field : Field}
    (hasField : nodeSchema.HasField owner field) : field = ⟨"label", "bytes4"⟩ ∨ field = ⟨"next", "Node[]"⟩ := by
  obtain ⟨fields, found, member⟩ := hasField
  have listed : owner ∈ ["Node"] := Schema.mem_names_of_fields? found
  rw [List.mem_singleton] at listed
  subst listed
  cases found
  simpa only [List.mem_cons, List.not_mem_nil, or_false] using member

/-- Nodes with one label agree if what follows them does. -/
theorem nodes_agree {left right : Json.Object} {label next other : Json}
    (leftLabel : left.get? "label" = some label) (rightLabel : right.get? "label" = some label)
    (leftNext : left.get? "next" = some next) (rightNext : right.get? "next" = some other)
    (followed : Agree nodeSchema "Node[]" next other) :
    AgreeOnDeclared nodeSchema "Node" left right where
  present field hasField := by
    rcases field_of_node hasField with rfl | rfl
    · rw [leftLabel, rightLabel]
    · rw [leftNext, rightNext]
      rfl
  inside field hasField value otherValue found otherFound := by
    rcases field_of_node hasField with rfl | rfl
    · cases found.symm.trans leftLabel
      cases otherFound.symm.trans rightLabel
      exact .same
    · cases found.symm.trans leftNext
      cases otherFound.symm.trans rightNext
      exact followed

/-- Names that look like parts of the schema and are the base of none of its field types. What they
stand for need not make sense. -/
def notedSchema : Schema :=
  [("Label", [⟨"of", "Node"⟩])] ++ (nodeSchema ++ [("Node[]", []), ("bytes", [⟨"x", "Nothing"⟩])])

def lastNode : Json.Object := [("label", .string "0x0100"), ("next", .array [])]

/-- The respelled chain with another remark than it has, and with one at its last node. -/
def notedChain : Json.Object :=
  [("label", .string "ab00"),
    ("next", .array [.object (lastNode.insert "note" (.array [.null]))]),
    ("note", .string "first")]

theorem noted_schema_extends : nodeSchema.Extends notedSchema := by
  apply Schema.extends_of_added
  intro name declared
  obtain ⟨fields, found⟩ := Schema.fields_of_declares declared
  have listed : name ∈ ["Label", "Node[]", "bytes"] := Schema.mem_names_of_fields? found
  have bases : ∀ owner field, nodeSchema.HasField owner field →
      baseName field.type ∈ ["bytes4", "Node"] := by
    intro owner field hasField
    rcases field_of_node hasField with rfl | rfl
    · decide
    · decide
  have distinct : ∀ name ∈ ["Label", "Node[]", "bytes"],
      nodeSchema.declares name = false ∧ name ∉ ["bytes4", "Node"] := by
    decide
  refine ⟨(distinct name listed).1, ?_⟩
  intro owner field hasField same
  exact (distinct name listed).2 (same ▸ bases owner field hasField)

/-- Neither a struct under the name of an array type nor remarks change the hash of a chain. -/
theorem noted_chain_keeps_its_hash : ∃ digest,
    hashStruct markedHash nodeSchema "Node" respelledChain = .ok digest ∧
      hashStruct markedHash notedSchema "Node" respelledChain = .ok digest ∧
      hashStruct markedHash nodeSchema "Node" notedChain = .ok digest ∧
      hashStruct markedHash notedSchema "Node" notedChain = .ok digest := by
  have hashed := respelled_is_chain.first.hash_struct respelled_is_chain.encode_last
  have last : AgreeOnDeclared nodeSchema "Node" lastNode
      (lastNode.insert "note" (.array [.null])) := by
    apply (AgreeOnDeclared.refl nodeSchema "Node" lastNode).insert
    intro field hasField
    rcases field_of_node hasField with rfl | rfl
    · decide
    · decide
  have first : AgreeOnDeclared nodeSchema "Node" respelledChain notedChain := by
    refine nodes_agree rfl rfl rfl rfl (.array rfl rfl ?_)
    intro item other listed
    cases List.mem_singleton.mp listed
    exact .struct rfl rfl last.present last.inside
  exact ⟨_, hashed, struct_hash_sees_only_what_is_reached markedHash nodeSchema notedSchema "Node"
    respelledChain notedChain _ hashed noted_schema_extends first⟩

end SignedTx
