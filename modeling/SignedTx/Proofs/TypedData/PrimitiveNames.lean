import SignedTx.Proofs.TypedData.CanonicalTypeString
import SignedTx.Proofs.TypedData.TypeName

/-!
# Which names are primitive types

Six names have no width. The others are a family's name and a width of the family in decimal, with
zeros in front of it at will; names that differ in more than these zeros are different types. The
type string of a struct exists exactly if each base that no struct has for its name is such a name,
and else its error names a field whose base is none.
-/

set_option autoImplicit false

namespace SignedTx.TypedData

/-! ## Names -/

def unsizedNames : List String := ["address", "bool", "string", "bytes", "uint", "int"]

/-- The families of sized types with the widths that they have. -/
inductive HasWidth : (family : String) → (width : Nat) → Prop
  | bytes {width : Nat} (some_octet : 1 ≤ width) (one_word : width ≤ 32) : HasWidth "bytes" width
  | uint {width : Nat} (whole : width % 8 = 0) (some_octet : 8 ≤ width) (one_word : width ≤ 256) :
      HasWidth "uint" width
  | int {width : Nat} (whole : width % 8 = 0) (some_octet : 8 ≤ width) (one_word : width ≤ 256) :
      HasWidth "int" width

def sizedName (family : String) (zeros width : Nat) : String :=
  family ++ String.ofList (Digits.zeroLed zeros width)

/-- The name of a primitive type; a width has just so many zeros in front of it. -/
def IsPrimitiveName (zeros : Nat) (name : String) : Prop :=
  name ∈ unsizedNames ∨ ∃ family width, HasWidth family width ∧ name = sizedName family zeros width

theorem is_width_iff {digits : List Char} {n : Nat} :
    IsWidth digits n ↔ n < 2 ^ 64 ∧ ∃ zeros, digits = Digits.zeroLed zeros n := by
  rw [← Digits.decimal_eq_some_iff_zero_led, Digits.decimal_eq_some]
  constructor
  · intro width
    exact ⟨width.fits, width.some_digit, width.spells⟩
  · intro parts
    obtain ⟨fits, some_digit, spells⟩ := parts
    exact ⟨some_digit, spells, fits⟩

/-- The type that a family has of a width. -/
inductive HasPrimitive : (family : String) → (width : Nat) → Primitive → Prop
  | bytes (width : Nat) : HasPrimitive "bytes" width (.fixedBytes width)
  | uint (width : Nat) : HasPrimitive "uint" width (.uint width)
  | int (width : Nat) : HasPrimitive "int" width (.int width)

theorem HasWidth.of_name_sized_name {family : String} {width : Nat} (has : HasWidth family width)
    (zeros : Nat) : ∃ primitive, HasPrimitive family width primitive ∧
      Primitive.ofName? (sizedName family zeros width) = some primitive := by
  have isWidth : width < 2 ^ 64 → IsWidth (Digits.zeroLed zeros width) width :=
    fun fits => is_width_iff.2 ⟨fits, zeros, rfl⟩
  cases has with
  | bytes some_octet one_word =>
      exact ⟨_, .bytes width, Primitive.of_name_eq_some.2
        (.fixedBytes (isWidth (by omega)) some_octet one_word)⟩
  | uint whole some_octet one_word =>
      exact ⟨_, .uint width, Primitive.of_name_eq_some.2
        (.sizedUint (isWidth (by omega)) whole some_octet one_word)⟩
  | int whole some_octet one_word =>
      exact ⟨_, .int width, Primitive.of_name_eq_some.2
        (.sizedInt (isWidth (by omega)) whole some_octet one_word)⟩

/-- Zeros aside, a family and a width are known from the type. -/
theorem HasPrimitive.unique {family other : String} {width otherWidth : Nat}
    {primitive : Primitive} (has : HasPrimitive family width primitive)
    (also : HasPrimitive other otherWidth primitive) : family = other ∧ width = otherWidth := by
  cases has <;> cases also <;> exact ⟨rfl, rfl⟩

theorem HasPrimitive.eq {family other : String} {width otherWidth : Nat}
    {primitive another : Primitive} (has : HasPrimitive family width primitive)
    (also : HasPrimitive other otherWidth another)
    (same : family = other ∧ width = otherWidth) : primitive = another := by
  obtain ⟨families, rfl⟩ := same
  cases has <;> cases also <;> first | rfl | exact absurd families (by decide)

theorem is_some_of_name_iff {name : String} :
    (Primitive.ofName? name).isSome = true ↔ ∃ zeros, IsPrimitiveName zeros name := by
  constructor
  · intro known
    obtain ⟨primitive, found⟩ := Option.isSome_iff_exists.mp known
    have sized : ∀ {family : String} {digits : List Char} {width : Nat}, IsWidth digits width →
        HasWidth family width → ∃ zeros, IsPrimitiveName zeros (family ++ String.ofList digits) := by
      intro family digits width isWidth has
      obtain ⟨-, zeros, rfl⟩ := is_width_iff.1 isWidth
      exact ⟨zeros, .inr ⟨family, width, has, rfl⟩⟩
    cases Primitive.of_name_eq_some.1 found with
    | address | bool | string | bytes | uint | int => exact ⟨0, .inl (by decide)⟩
    | fixedBytes isWidth some_octet one_word => exact sized isWidth (.bytes some_octet one_word)
    | sizedUint isWidth whole some_octet one_word =>
        exact sized isWidth (.uint whole some_octet one_word)
    | sizedInt isWidth whole some_octet one_word =>
        exact sized isWidth (.int whole some_octet one_word)
  · intro parts
    obtain ⟨zeros, unsized | ⟨family, width, has, rfl⟩⟩ := parts
    · have each : ∀ name ∈ unsizedNames, (Primitive.ofName? name).isSome = true := by decide
      exact each name unsized
    · obtain ⟨primitive, -, found⟩ := has.of_name_sized_name zeros
      rw [found]
      rfl

/-! ## Type strings -/

namespace Schema

variable {schema : Schema} {primary : String}

/-- A struct that is reached has the field, and no struct has the base of its type for a name. -/
structure Meets (schema : Schema) (primary : String) (field : Field) : Prop where
  undeclared : schema.declares (baseName field.type) = false
  within : ∃ name, schema.Reaches primary name ∧ schema.HasField name field

theorem knows_iff {base : String} : schema.Knows base ↔
    (schema.declares base = false → ∃ zeros, IsPrimitiveName zeros base) := by
  rw [Knows, is_some_of_name_iff]
  cases schema.declares base <;> simp

theorem resolves_iff : schema.Resolves primary ↔ schema.declares primary = true ∧
    ∀ field, schema.Meets primary field → ∃ zeros, IsPrimitiveName zeros (baseName field.type) := by
  constructor
  · intro resolves
    refine ⟨resolves.declared, fun field meets => ?_⟩
    obtain ⟨name, reaches, hasField⟩ := meets.within
    exact knows_iff.1 (resolves.known name field reaches hasField) meets.undeclared
  · intro parts
    obtain ⟨declared, named⟩ := parts
    refine ⟨declared, fun name field reaches hasField => knows_iff.2 fun undeclared => ?_⟩
    exact named field ⟨undeclared, name, reaches, hasField⟩

theorem unnamed_of_encode_type {e : Error} (refused : schema.encodeType primary = .error e) :
    (schema.declares primary = false ∧ e = .unknownType primary) ∨
      ∃ field, schema.Meets primary field ∧
        (¬ ∃ zeros, IsPrimitiveName zeros (baseName field.type)) ∧ e = .unknownType field.type := by
  have unresolved : ¬ schema.Resolves primary := by
    intro resolves
    obtain ⟨text, encoded⟩ := type_string_of_resolves resolves
    cases encoded.symm.trans refused
  obtain ⟨type, named, lacks⟩ := encode_type_of_not_resolves unresolved
  cases named.symm.trans refused
  rcases lacks with ⟨undeclared, rfl⟩ | ⟨name, field, reaches, hasField, unknown, rfl⟩
  · exact .inl ⟨undeclared, rfl⟩
  · rw [knows_iff, Classical.not_imp] at unknown
    exact .inr ⟨field, ⟨unknown.1, name, reaches, hasField⟩, unknown.2, rfl⟩

end Schema

/-- A struct has a type string if and only if every base that it meets and that is no struct is the
name of a primitive type, with any number of zeros in front of its width; an error names a base that
is not. Names of sized types with any zeros are of one type exactly if family and width agree. -/
theorem primitive_names_differ_in_zeros_only (schema : Schema) (primary : String) :
    ((∃ text, schema.encodeType primary = .ok text) ↔ schema.declares primary = true ∧
      ∀ field, schema.Meets primary field →
        ∃ zeros, IsPrimitiveName zeros (baseName field.type)) ∧
    (∀ e, schema.encodeType primary = .error e →
      (schema.declares primary = false ∧ e = .unknownType primary) ∨
        ∃ field, schema.Meets primary field ∧
          (¬ ∃ zeros, IsPrimitiveName zeros (baseName field.type)) ∧
            e = .unknownType field.type) ∧
    ∀ family width other otherWidth, HasWidth family width → HasWidth other otherWidth →
      ∀ zeros otherZeros, Primitive.ofName? (sizedName family zeros width) =
        Primitive.ofName? (sizedName other otherZeros otherWidth) ↔
          family = other ∧ width = otherWidth := by
  refine ⟨?_, fun e refused => Schema.unnamed_of_encode_type refused, ?_⟩
  · rw [← Schema.resolves_iff]
    constructor
    · intro parts
      obtain ⟨text, encoded⟩ := parts
      exact Schema.resolves_of_encode_type encoded
    · exact Schema.type_string_of_resolves
  · intro family width other otherWidth has otherHas zeros otherZeros
    obtain ⟨primitive, hasPrimitive, found⟩ := has.of_name_sized_name zeros
    obtain ⟨another, otherPrimitive, otherFound⟩ := otherHas.of_name_sized_name otherZeros
    rw [found, otherFound, Option.some.injEq]
    constructor
    · intro same
      subst same
      exact hasPrimitive.unique otherPrimitive
    · exact hasPrimitive.eq otherPrimitive

/-! ## Widths with a zero in front -/

def zeroLedSchema : Schema := [("T", [⟨"v", "uint08"⟩])]

theorem zero_led_type_string : zeroLedSchema.encodeType "T" = .ok "T(uint08 v)" := by
  have declared : zeroLedSchema.fields? "T" = some [⟨"v", "uint08"⟩] := rfl
  rw [Schema.encode_type_of_primitives declared (by decide)]
  exact congrArg Except.ok (by decide)

/-- The zero is no part of the type. A name with nine bits is refused with or without zeros. -/
theorem zero_led_octet_is_met :
    HasWidth "uint" 8 ∧ zeroLedSchema.Meets "T" ⟨"v", "uint08"⟩ ∧
      (∃ zeros, IsPrimitiveName zeros "uint08") ∧
      Primitive.ofName? (sizedName "uint" 1 8) = Primitive.ofName? (sizedName "uint" 0 8) ∧
      ¬ ∃ text, Schema.encodeType [("T", [⟨"v", "uint09"⟩])] "T" = .ok text := by
  have has : HasWidth "uint" 8 := .uint rfl (by decide) (by decide)
  have meets : ∀ type, Schema.declares [("T", [⟨"v", type⟩])] (baseName type) = false →
      Schema.Meets [("T", [⟨"v", type⟩])] "T" ⟨"v", type⟩ :=
    fun type undeclared => ⟨undeclared, "T", .refl, ⟨_, rfl, List.mem_singleton_self _⟩⟩
  obtain ⟨strings, -, names⟩ := primitive_names_differ_in_zeros_only zeroLedSchema "T"
  obtain ⟨otherStrings, -⟩ := primitive_names_differ_in_zeros_only [("T", [⟨"v", "uint09"⟩])] "T"
  have named := (strings.mp ⟨_, zero_led_type_string⟩).2 _ (meets _ rfl)
  refine ⟨has, meets _ rfl, named, (names _ _ _ _ has has 1 0).mpr ⟨rfl, rfl⟩, ?_⟩
  intro encoded
  have unnamed := (otherStrings.mp encoded).2 _ (meets "uint09" rfl)
  exact absurd (is_some_of_name_iff.2 unnamed) (by decide)

/-- A second name of the type `uint8`, which is not its name without zeros in front. -/
theorem octet_has_a_second_name :
    ¬ IsPrimitiveName 0 "uint08" ∧ Primitive.ofName? "uint08" = Primitive.ofName? "uint8" ∧
      zeroLedSchema.encodeType "T" = .ok "T(uint08 v)" := by
  refine ⟨?_, by decide, zero_led_type_string⟩
  intro named
  rcases named with unsized | ⟨family, width, has, same⟩
  · exact absurd unsized (by decide)
  have chars := congrArg String.toList same
  rw [sizedName, String.toList_append, String.toList_ofList] at chars
  cases has with
  | bytes | int => simp at chars
  | uint =>
      have digits : ['0', '8'] = Digits.decimal width := by simpa [Digits.zeroLed] using chars
      have value := Digits.decimal_decimal width
      rw [← digits] at value
      cases value
      cases digits

end SignedTx.TypedData
