import Mathlib.Data.List.Basic
import SignedTx.TypedData.Schema

/-!
# Steps of the walk over a schema

A field of a primitive type or of a struct already seen adds nothing to the structs reached, a field
of a struct not yet seen adds it and its fields. A struct of primitive fields has its own definition
as its type string. A definition determines its fields, if their types and names have no separators.
-/

set_option autoImplicit false

namespace SignedTx.TypedData.Schema

variable {schema : Schema}

/-- The field's base is a primitive type and no declared struct. -/
def IsPrimitive (schema : Schema) (field : Field) : Prop :=
  schema.fields? (baseName field.type) = none ∧
    (Primitive.ofName? (baseName field.type)).isSome = true

instance (field : Field) : Decidable (schema.IsPrimitive field) :=
  inferInstanceAs (Decidable (_ ∧ _))

theorem reach_of_primitive {seen : List String} {field : Field} {rest : List Field}
    (primitive : schema.IsPrimitive field) :
    schema.reach seen (field :: rest) = schema.reach seen rest := by
  obtain ⟨undeclared, named⟩ := primitive
  rw [reach]
  split
  · rename_i declared
    rw [undeclared] at declared
    cases declared
  · rw [if_pos named]

/-- A struct already seen is not entered again, so cycles end. -/
theorem reach_of_seen {seen : List String} {field : Field} {rest fields : List Field}
    (declared : schema.fields? (baseName field.type) = some fields)
    (known : seen.contains (baseName field.type) = true) :
    schema.reach seen (field :: rest) = schema.reach seen rest := by
  rw [reach]
  split
  · rw [dif_pos known]
  · rename_i undeclared
    rw [declared] at undeclared
    cases undeclared

theorem reach_of_fresh {seen : List String} {field : Field} {rest fields : List Field}
    (declared : schema.fields? (baseName field.type) = some fields)
    (fresh : seen.contains (baseName field.type) = false) :
    schema.reach seen (field :: rest) =
      schema.reach (baseName field.type :: seen) (fields ++ rest) := by
  rw [reach]
  split
  · rename_i found same
    rw [declared] at same
    cases same
    rw [dif_neg (by rw [fresh]; decide)]
  · rename_i undeclared
    rw [declared] at undeclared
    cases undeclared

theorem reach_of_unknown {seen : List String} {field : Field} {rest : List Field}
    (undeclared : schema.fields? (baseName field.type) = none)
    (unnamed : ¬ (Primitive.ofName? (baseName field.type)).isSome = true) :
    schema.reach seen (field :: rest) = .error (.unknownType field.type) := by
  rw [reach]
  split
  · rename_i declared
    rw [undeclared] at declared
    cases declared
  · rw [if_neg unnamed]

theorem reach_of_primitives (seen : List String) {fields : List Field}
    (primitives : ∀ field ∈ fields, schema.IsPrimitive field) :
    schema.reach seen fields = .ok seen := by
  induction fields with
  | nil => rw [reach]
  | cons field rest induction =>
      rw [reach_of_primitive (primitives field (by simp))]
      exact induction fun other listed => primitives other (by simp [listed])

theorem encode_type_of_reached {name : String} {fields : List Field} {reached : List String}
    (declared : schema.fields? name = some fields)
    (walked : schema.reach [name] fields = .ok reached) :
    schema.encodeType name = schema.definitions (name ::
      (reached.filter (· ≠ name)).mergeSort fun a b => decide (a ≤ b)) := by
  rw [encodeType, dependencies, declared]
  simp only [walked]
  rfl

theorem encode_type_of_primitives {name : String} {fields : List Field}
    (declared : schema.fields? name = some fields)
    (primitives : ∀ field ∈ fields, schema.IsPrimitive field) :
    schema.encodeType name = .ok (definition name fields) := by
  rw [encode_type_of_reached declared (reach_of_primitives [name] primitives)]
  simp only [ne_eq, not_true_eq_false, decide_false, Bool.false_eq_true, not_false_eq_true,
    List.filter_cons_of_neg, List.filter_nil, List.mergeSort_nil, definitions, declared]
  exact congrArg Except.ok (String.append_empty)

/-! ## Definitions -/

/-- Neither the type nor the name has a character that a definition puts between fields. -/
structure IsPlain (field : Field) : Prop where
  type : ',' ∉ field.type.toList ∧ ' ' ∉ field.type.toList
  name : ',' ∉ field.name.toList ∧ ' ' ∉ field.name.toList

instance (field : Field) : Decidable (IsPlain field) :=
  decidable_of_iff ((',' ∉ field.type.toList ∧ ' ' ∉ field.type.toList) ∧
    ',' ∉ field.name.toList ∧ ' ' ∉ field.name.toList)
    ⟨fun parts => ⟨parts.1, parts.2⟩, fun plain => ⟨plain.type, plain.name⟩⟩

/-- A field as it stands in a definition. -/
def item (field : Field) : List Char := [' '].intercalate [field.type.toList, field.name.toList]

theorem item_injective {left right : Field} (left_plain : IsPlain left)
    (right_plain : IsPlain right) (same : item left = item right) : left = right := by
  have parts : ∀ {field : Field}, IsPlain field →
      (item field).splitOn ' ' = [field.type.toList, field.name.toList] := by
    intro field plain
    apply List.splitOn_intercalate ' ' ?_ (by simp)
    intro part listed
    simp only [List.mem_cons, List.not_mem_nil, or_false] at listed
    rcases listed with rfl | rfl
    · exact plain.type.2
    · exact plain.name.2
  have split := parts left_plain
  rw [same, parts right_plain] at split
  simp only [List.cons.injEq, String.toList_inj, and_true] at split
  obtain ⟨leftType, leftName⟩ := left
  obtain ⟨rightType, rightName⟩ := right
  obtain ⟨rfl, rfl⟩ := split
  rfl

theorem separators_of_item {field : Field} (plain : IsPlain field) :
    ',' ∉ item field ∧ ' ' ∈ item field := by
  have spelled : item field = field.type.toList ++ ' ' :: field.name.toList := by
    simp [item, List.intercalate]
  rw [spelled]
  simp [plain.type.1, plain.name.1]

theorem split_items {fields : List Field} (plain : ∀ field ∈ fields, IsPlain field)
    (some_field : fields ≠ []) :
    ([','].intercalate (fields.map item)).splitOn ',' = fields.map item := by
  apply List.splitOn_intercalate
  · intro text listed
    obtain ⟨field, member, rfl⟩ := List.mem_map.mp listed
    exact (separators_of_item (plain field member)).1
  · simpa using some_field

/-- No item is empty, so the empty list is told apart from a list of one item. -/
theorem ne_nil_of_items {field : Field} {rest : List Field}
    (plain : ∀ other ∈ field :: rest, IsPlain other) :
    [','].intercalate ((field :: rest).map item) ≠ [] := by
  intro empty
  have split := split_items plain (by simp)
  rw [empty, List.splitOn_nil, List.map_cons, List.cons.injEq] at split
  have space := (separators_of_item (plain field (by simp))).2
  rw [← split.1] at space
  cases space

theorem fields_eq_of_items_eq {left right : List Field} (left_plain : ∀ field ∈ left, IsPlain field)
    (right_plain : ∀ field ∈ right, IsPlain field) (same : left.map item = right.map item) :
    left = right := by
  induction left generalizing right with
  | nil => exact (List.map_eq_nil_iff.mp same.symm).symm
  | cons field rest induction =>
      cases right with
      | nil => cases same
      | cons other others =>
          rw [List.map_cons, List.map_cons, List.cons.injEq] at same
          have first : field = other :=
            item_injective (left_plain field (by simp)) (right_plain other (by simp)) same.1
          have later : rest = others := by
            apply induction ?_ ?_ same.2
            · exact fun field listed => left_plain field (by simp [listed])
            · exact fun field listed => right_plain field (by simp [listed])
          rw [first, later]

theorem fields_eq_of_joined_eq {left right : List Field} (left_plain : ∀ field ∈ left, IsPlain field)
    (right_plain : ∀ field ∈ right, IsPlain field)
    (same : [','].intercalate (left.map item) = [','].intercalate (right.map item)) :
    left = right := by
  cases left with
  | nil =>
      cases right with
      | nil => rfl
      | cons field rest => exact absurd same.symm (ne_nil_of_items right_plain)
  | cons field rest =>
      cases right with
      | nil => exact absurd same (ne_nil_of_items left_plain)
      | cons other others =>
          apply fields_eq_of_items_eq left_plain right_plain
          rw [← split_items left_plain (by simp), same, split_items right_plain (by simp)]

theorem to_list_definition (name : String) (fields : List Field) :
    (definition name fields).toList =
      name.toList ++ '(' :: ([','].intercalate (fields.map item) ++ [')']) := by
  have items : (fields.map fun field => field.type ++ " " ++ field.name).map String.toList =
      fields.map item := by
    simp [item, List.intercalate]
  simp only [definition, String.toList_append, String.toList_intercalate, items]
  simp

theorem definition_injective {name : String} {left right : List Field}
    (left_plain : ∀ field ∈ left, IsPlain field) (right_plain : ∀ field ∈ right, IsPlain field)
    (same : definition name left = definition name right) : left = right := by
  have texts := congrArg String.toList same
  rw [to_list_definition, to_list_definition, List.append_cancel_left_eq, List.cons.injEq,
    List.append_cancel_right_eq] at texts
  exact fields_eq_of_joined_eq left_plain right_plain texts.2

end SignedTx.TypedData.Schema
