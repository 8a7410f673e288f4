import Mathlib.Data.List.Perm.Basic
import SignedTx.Proofs.Outcome
import SignedTx.Proofs.Text.ByteOrder
import SignedTx.Proofs.TypedData.Reachability

/-!
# The canonical type string

The type string of a struct is its own definition followed by those of the other structs it reaches,
each once, by the octets of their names. The list of the others is determined by what is reached
alone, so neither the walk's order nor the order of fields shows in it, apart from each definition.
-/

set_option autoImplicit false

namespace SignedTx.TypedData.Schema

variable {schema : Schema} {primary : String}

/-! ## Definitions -/

/-- The fields in their order, each as its type and name, with commas between them. -/
def fieldsText : List Field → String
  | [] => ""
  | [field] => field.type ++ " " ++ field.name
  | field :: next :: rest => field.type ++ " " ++ field.name ++ "," ++ fieldsText (next :: rest)

/-- The text is the definition of the struct that the schema declares under the name. -/
def Defines (schema : Schema) (name text : String) : Prop :=
  ∃ fields, schema.fields? name = some fields ∧ text = name ++ "(" ++ fieldsText fields ++ ")"

theorem fields_text_eq (fields : List Field) :
    fieldsText fields =
      String.intercalate "," (fields.map fun field => field.type ++ " " ++ field.name) := by
  induction fields using fieldsText.induct with
  | case1 => rfl
  | case2 field => rfl
  | case3 field next rest induction =>
      rw [fieldsText, induction]
      simp only [List.map_cons, String.intercalate_cons_cons]

theorem defines_iff {name text : String} : schema.Defines name text ↔
    ∃ fields, schema.fields? name = some fields ∧ text = definition name fields := by
  simp only [Defines, definition, fields_text_eq]

theorem definitions_eq_ok {names : List String} {text : String} :
    schema.definitions names = .ok text ↔
      ∃ texts, List.Forall₂ schema.Defines names texts ∧ text = String.join texts := by
  induction names generalizing text with
  | nil =>
      rw [definitions, Except.ok.injEq]
      simp [eq_comm]
  | cons name rest induction =>
      rw [definitions]
      cases declared : schema.fields? name with
      | none =>
          constructor
          · intro refused
            cases refused
          · intro parts
            obtain ⟨texts, defined, -⟩ := parts
            cases defined with
            | cons first _ =>
                obtain ⟨fields, found, -⟩ := first
                cases declared.symm.trans found
      | some fields =>
          simp only [Outcome.bind_eq_ok_iff]
          constructor
          · intro parts
            obtain ⟨later, found, same⟩ := parts
            obtain ⟨texts, defined, rfl⟩ := induction.mp found
            refine ⟨definition name fields :: texts,
              .cons (defines_iff.2 ⟨fields, declared, rfl⟩) defined, ?_⟩
            rw [String.join_cons]
            exact (Except.ok.inj same).symm
          · intro parts
            obtain ⟨texts, defined, same⟩ := parts
            cases defined with
            | cons first later =>
                obtain ⟨others, found, rfl⟩ := defines_iff.1 first
                cases declared.symm.trans found
                refine ⟨_, induction.mpr ⟨_, later, rfl⟩, ?_⟩
                rw [same, String.join_cons]
                rfl

theorem definitions_of_declared {names : List String}
    (declared : ∀ name ∈ names, schema.declares name = true) :
    ∃ text, schema.definitions names = .ok text := by
  induction names with
  | nil => exact ⟨"", rfl⟩
  | cons name rest induction =>
      obtain ⟨fields, found⟩ := fields_of_declares (declared name (by simp))
      obtain ⟨later, encoded⟩ := induction fun other listed => declared other (by simp [listed])
      obtain ⟨texts, defined, rfl⟩ := definitions_eq_ok.1 encoded
      exact ⟨_, definitions_eq_ok.2
        ⟨_, .cons (defines_iff.2 ⟨fields, found, rfl⟩) defined, rfl⟩⟩

/-! ## The other structs -/

/-- The structs reached from the primary one apart from itself, strictly ascending by octets. -/
structure ListsOthers (schema : Schema) (primary : String) (others : List String) : Prop where
  ascending : others.Pairwise fun left right => utf8 left < utf8 right
  mem_iff : ∀ name, name ∈ others ↔ name ≠ primary ∧ schema.Reaches primary name

theorem ListsOthers.nodup {others : List String} (lists : schema.ListsOthers primary others) :
    others.Nodup := by
  apply lists.ascending.imp
  intro left right lt same
  subst same
  exact List.lt_irrefl _ lt

/-- A list in strictly ascending order is determined by its members. -/
theorem ListsOthers.unique {others same : List String} (lists : schema.ListsOthers primary others)
    (also : schema.ListsOthers primary same) : others = same := by
  have permuted : others.Perm same := by
    rw [List.perm_ext_iff_of_nodup lists.nodup also.nodup]
    intro name
    rw [lists.mem_iff, also.mem_iff]
  refine permuted.eq_of_pairwise ?_ lists.ascending also.ascending
  intro left right _ _ lt gt
  exact absurd gt (List.lt_asymm lt)

/-- The walk's list without the primary struct, sorted as the type string has it. -/
theorem lists_others_of_reached {reached : List String} (distinct : reached.Nodup)
    (mem_iff : ∀ name, name ∈ reached ↔ schema.Reaches primary name) :
    schema.ListsOthers primary
      ((reached.filter (· ≠ primary)).mergeSort fun a b => decide (a ≤ b)) := by
  let others := reached.filter (· ≠ primary)
  have sorted : (others.mergeSort fun a b => decide (a ≤ b)).Pairwise
      fun a b => decide (a ≤ b) = true := by
    apply List.pairwise_mergeSort
    · intro a b c first later
      simp only [decide_eq_true_eq] at first later ⊢
      exact String.le_trans first later
    · intro a b
      simp only [Bool.or_eq_true, decide_eq_true_eq]
      exact String.le_total a b
  have once : (others.mergeSort fun a b => decide (a ≤ b)).Nodup :=
    (List.mergeSort_perm others _).nodup_iff.mpr (distinct.filter _)
  constructor
  · refine (sorted.and once).imp ?_
    intro left right both
    obtain ⟨le, ne⟩ := both
    apply utf8_lt
    rw [decide_eq_true_eq] at le
    by_contra notLt
    exact ne (String.le_antisymm le (String.not_lt.mp notLt))
  · intro name
    rw [List.mem_mergeSort, List.mem_filter, mem_iff, decide_eq_true_eq]
    exact and_comm

/-- The same structs with the same fields, possibly in another order. -/
def Reorders (schema other : Schema) : Prop :=
  ∀ name, Option.Rel List.Perm (schema.fields? name) (other.fields? name)

theorem Reorders.mentions_eq {other : Schema} (reorders : schema.Reorders other) :
    schema.Mentions = other.Mentions := by
  have declares : ∀ name, schema.declares name = other.declares name := by
    intro name
    have related := reorders name
    rw [Schema.declares, Schema.declares]
    generalize schema.fields? name = left, other.fields? name = right at related ⊢
    cases related <;> rfl
  have hasField : ∀ name field, schema.HasField name field ↔ other.HasField name field := by
    intro name field
    have related := reorders name
    rw [HasField, HasField]
    generalize schema.fields? name = left, other.fields? name = right at related ⊢
    cases related with
    | some permuted => simp [permuted.mem_iff]
    | none => simp
  funext name mentioned
  simp only [Mentions, declares, hasField]

theorem Reorders.lists_others_iff {other : Schema} (reorders : schema.Reorders other)
    (others : List String) :
    schema.ListsOthers primary others ↔ other.ListsOthers primary others := by
  have reaches : schema.Reaches = other.Reaches := by
    rw [Reaches, Reaches, reorders.mentions_eq]
  constructor
  · intro lists
    exact ⟨lists.ascending, reaches ▸ lists.mem_iff⟩
  · intro lists
    exact ⟨lists.ascending, reaches ▸ lists.mem_iff⟩

/-! ## The type string -/

/-- The primary struct's definition, then those of the others it reaches in their order. -/
def IsTypeString (schema : Schema) (primary text : String) : Prop :=
  ∃ others texts, schema.ListsOthers primary others ∧
    List.Forall₂ schema.Defines (primary :: others) texts ∧ text = String.join texts

/-- The name itself is not declared, or a struct it reaches has a field of the type, whose base is
neither declared nor primitive. -/
def Lacks (schema : Schema) (primary type : String) : Prop :=
  (schema.declares primary = false ∧ type = primary) ∨
    ∃ name field, schema.Reaches primary name ∧ schema.HasField name field ∧
      ¬ schema.Knows (baseName field.type) ∧ type = field.type

theorem encode_type_of_resolves (resolves : schema.Resolves primary) :
    ∃ others, schema.ListsOthers primary others ∧
      schema.encodeType primary = schema.definitions (primary :: others) := by
  obtain ⟨reached, walked⟩ := dependencies_of_resolves resolves
  obtain ⟨-, mem_iff, distinct⟩ := reached_of_dependencies walked
  refine ⟨_, lists_others_of_reached distinct mem_iff, ?_⟩
  rw [encodeType, walked]
  rfl

theorem resolves_of_encode_type {text : String} (encoded : schema.encodeType primary = .ok text) :
    schema.Resolves primary := by
  rw [encodeType, Outcome.bind_eq_ok_iff] at encoded
  obtain ⟨reached, walked, -⟩ := encoded
  exact (reached_of_dependencies walked).1

theorem type_string_of_resolves (resolves : schema.Resolves primary) :
    ∃ text, schema.encodeType primary = .ok text := by
  obtain ⟨others, lists, encoded⟩ := encode_type_of_resolves resolves
  rw [encoded]
  apply definitions_of_declared
  intro name listed
  rcases List.mem_cons.mp listed with rfl | other
  · exact resolves.declared
  · exact declares_of_reaches resolves.declared ((lists.mem_iff name).mp other).2

theorem encode_type_eq_ok {text : String} : schema.encodeType primary = .ok text ↔
    schema.Resolves primary ∧ schema.IsTypeString primary text := by
  constructor
  · intro found
    have resolves := resolves_of_encode_type found
    obtain ⟨others, lists, encoded⟩ := encode_type_of_resolves resolves
    rw [encoded] at found
    obtain ⟨texts, defined, same⟩ := definitions_eq_ok.1 found
    exact ⟨resolves, others, texts, lists, defined, same⟩
  · intro parts
    obtain ⟨resolves, others, texts, lists, defined, same⟩ := parts
    obtain ⟨listed, also, encoded⟩ := encode_type_of_resolves resolves
    cases lists.unique also
    rw [encoded]
    exact definitions_eq_ok.2 ⟨texts, defined, same⟩

theorem encode_type_of_not_resolves (unresolved : ¬ schema.Resolves primary) :
    ∃ type, schema.encodeType primary = .error (.unknownType type) ∧ schema.Lacks primary type := by
  cases walked : schema.dependencies primary with
  | ok reached => exact absurd (reached_of_dependencies walked).1 unresolved
  | error e =>
      have refused : schema.encodeType primary = .error e := by
        rw [encodeType, walked]
        rfl
      rw [refused]
      rcases unknown_of_dependencies walked with
        ⟨undeclared, rfl⟩ | ⟨name, field, reaches, hasField, unknown, rfl⟩
      · exact ⟨primary, rfl, .inl ⟨undeclared, rfl⟩⟩
      · exact ⟨field.type, rfl, .inr ⟨name, field, reaches, hasField, unknown, rfl⟩⟩

/-- The type string exists if and only if the struct is declared and all it reaches is known; a
struct or a field that is not is named as the unknown type. It is the canonical one, and the order
in which fields stand does not show in the order of the structs. Cycles are no exception: the walk
enters no struct twice, so it ends on every schema. -/
theorem type_string_is_canonical (schema : Schema) (primary : String) :
    ((∃ text, schema.encodeType primary = .ok text) ↔ schema.Resolves primary) ∧
      (∀ text, schema.encodeType primary = .ok text ↔
        schema.Resolves primary ∧ schema.IsTypeString primary text) ∧
      (¬ schema.Resolves primary → ∃ type,
        schema.encodeType primary = .error (.unknownType type) ∧ schema.Lacks primary type) ∧
      ∀ other others, schema.Reorders other →
        (schema.ListsOthers primary others ↔ other.ListsOthers primary others) := by
  refine ⟨⟨?_, type_string_of_resolves⟩, fun _ => encode_type_eq_ok, encode_type_of_not_resolves, ?_⟩
  · intro parts
    obtain ⟨text, encoded⟩ := parts
    exact resolves_of_encode_type encoded
  · intro other others reorders
    exact reorders.lists_others_iff others

/-! ## Orders and their legs -/

/-- Two structs that mention one another, one of them itself too, and one that mentions none. -/
def orderSchema : Schema :=
  [("Person", [⟨"wallet", "address"⟩]),
   ("Order", [⟨"maker", "Person"⟩, ⟨"legs", "Leg[]"⟩]),
   ("Leg", [⟨"parts", "Leg[2][]"⟩, ⟨"order", "Order"⟩])]

theorem order_field_types {name : String} {field : Field}
    (hasField : orderSchema.HasField name field) :
    field.type ∈ ["address", "Person", "Leg[]", "Leg[2][]", "Order"] := by
  obtain ⟨fields, found, member⟩ := hasField
  have listed : name ∈ ["Person", "Order", "Leg"] := mem_names_of_fields? found
  simp only [List.mem_cons, List.not_mem_nil, or_false] at listed
  rcases listed with rfl | rfl | rfl <;> cases found <;>
    simp only [List.mem_cons, List.not_mem_nil, or_false] at member
  · simp [member]
  · rcases member with rfl | rfl <;> simp
  · rcases member with rfl | rfl <;> simp

theorem order_schema_known (name : String) (field : Field)
    (hasField : orderSchema.HasField name field) : orderSchema.Knows (baseName field.type) := by
  have listed := order_field_types hasField
  simp only [List.mem_cons, List.not_mem_nil, or_false] at listed
  rcases listed with same | same | same | same | same <;> rw [same]
  · exact .inr rfl
  all_goals exact .inl rfl

theorem order_lists_others : orderSchema.ListsOthers "Order" ["Leg", "Person"] := by
  have leg : orderSchema.Mentions "Order" "Leg" :=
    ⟨rfl, ⟨"legs", "Leg[]"⟩, ⟨_, rfl, by simp⟩, rfl⟩
  have person : orderSchema.Mentions "Order" "Person" :=
    ⟨rfl, ⟨"maker", "Person"⟩, ⟨_, rfl, by simp⟩, rfl⟩
  refine ⟨by simp; decide, fun name => ⟨?_, ?_⟩⟩
  · intro listed
    simp only [List.mem_cons, List.not_mem_nil, or_false] at listed
    rcases listed with rfl | rfl
    · exact ⟨by decide, .single leg⟩
    · exact ⟨by decide, .single person⟩
  · intro parts
    obtain ⟨other, reaches⟩ := parts
    obtain ⟨fields, found⟩ := fields_of_declares (declares_of_reaches rfl reaches)
    have listed : name ∈ ["Person", "Order", "Leg"] := mem_names_of_fields? found
    simp only [List.mem_cons, List.not_mem_nil, or_false] at listed ⊢
    rcases listed with rfl | rfl | rfl
    · exact .inr rfl
    · exact absurd rfl other
    · exact .inl rfl

/-- Neither cycle repeats a definition, and the others are sorted though fields mention them in
another order. -/
theorem cyclic_type_string : orderSchema.encodeType "Order" =
    .ok "Order(Person maker,Leg[] legs)Leg(Leg[2][] parts,Order order)Person(address wallet)" := by
  have resolves : orderSchema.Resolves "Order" := resolves_of_known rfl order_schema_known
  refine ((type_string_is_canonical orderSchema "Order").2.1 _).mpr ⟨resolves, ?_⟩
  refine ⟨_, _, order_lists_others, .cons ⟨_, rfl, rfl⟩ (.cons ⟨_, rfl, rfl⟩
    (.cons ⟨_, rfl, rfl⟩ .nil)), ?_⟩
  decide

end SignedTx.TypedData.Schema
