import SignedTx.Proofs.Text.Front
import SignedTx.Proofs.Text.Numerals
import SignedTx.TypedData.TypeName

/-!
# Names of field types, as they are written

A width is a decimal number that a machine word holds; a sized primitive is named by its family and a
width, an array suffix has a width or nothing between its brackets. Neither a primitive's name nor
a width has a bracket, so the last suffix of a type is found from its end and the base from its
beginning.
-/

set_option autoImplicit false

namespace SignedTx.TypedData

/-! ## Widths -/

/-- The digits, leading zeros allowed, denote a number that a machine word holds. -/
structure IsWidth (digits : List Char) (n : Nat) : Prop where
  some_digit : digits ≠ []
  spells : Digits.Spells 10 digits n
  fits : n < 2 ^ 64

theorem width_eq_some {digits : List Char} {n : Nat} :
    width? digits = some n ↔ IsWidth digits n := by
  rw [width?, Option.filter_eq_some_iff, Digits.decimal_eq_some, decide_eq_true_eq]
  constructor
  · intro parts
    obtain ⟨⟨some_digit, spells⟩, fits⟩ := parts
    exact ⟨some_digit, spells, fits⟩
  · intro parts
    obtain ⟨some_digit, spells, fits⟩ := parts
    exact ⟨⟨some_digit, spells⟩, fits⟩

theorem bits_eq_some {digits : List Char} {bits : Nat} : bits? digits = some bits ↔
    IsWidth digits bits ∧ bits % 8 = 0 ∧ 8 ≤ bits ∧ bits ≤ 256 := by
  rw [bits?, Option.filter_eq_some_iff, width_eq_some]
  simp only [Bool.and_eq_true, decide_eq_true_eq, and_assoc]

theorem fixed_length_eq_some {digits : List Char} {length : Nat} :
    fixedLength? digits = some length ↔ IsWidth digits length ∧ 1 ≤ length ∧ length ≤ 32 := by
  rw [fixedLength?, Option.filter_eq_some_iff, width_eq_some]
  simp only [Bool.and_eq_true, decide_eq_true_eq]

theorem IsWidth.no_bracket {digits : List Char} {n : Nat} (width : IsWidth digits n) :
    '[' ∉ digits ∧ ']' ∉ digits := by
  have digit : ∀ c ∈ digits, (Digits.valueIn? 10 c).isSome = true :=
    fun c listed => width.spells.valid listed
  constructor
  · intro listed
    exact absurd (digit '[' listed) (by decide)
  · intro listed
    exact absurd (digit ']' listed) (by decide)

/-! ## Primitives -/

/-- The name of a primitive type; the sized ones have leading zeros at will. -/
inductive Primitive.Named : (name : String) → Primitive → Prop
  | address : Named "address" .address
  | bool : Named "bool" .bool
  | string : Named "string" .string
  | bytes : Named "bytes" .bytes
  | uint : Named "uint" (.uint 256)
  | int : Named "int" (.int 256)
  | fixedBytes {digits : List Char} {length : Nat} (width : IsWidth digits length)
      (some_octet : 1 ≤ length) (one_word : length ≤ 32) :
      Named ("bytes" ++ String.ofList digits) (.fixedBytes length)
  | sizedUint {digits : List Char} {bits : Nat} (width : IsWidth digits bits)
      (whole : bits % 8 = 0) (some_octet : 8 ≤ bits) (one_word : bits ≤ 256) :
      Named ("uint" ++ String.ofList digits) (.uint bits)
  | sizedInt {digits : List Char} {bits : Nat} (width : IsWidth digits bits)
      (whole : bits % 8 = 0) (some_octet : 8 ≤ bits) (one_word : bits ≤ 256) :
      Named ("int" ++ String.ofList digits) (.int bits)

theorem Primitive.named_of_sized {name : String} {primitive : Primitive}
    (sized : ofSized? name.toList = some primitive) : Named name primitive := by
  have spelled : ∀ (family : String) {digits : List Char},
      name.toList = family.toList ++ digits → name = family ++ String.ofList digits := by
    intro family digits same
    rw [← String.toList_inj, same, String.toList_append, String.toList_ofList]
  unfold ofSized? at sized
  split at sized
  · rename_i digits split
    obtain ⟨length, found, rfl⟩ := Option.map_eq_some_iff.mp sized
    obtain ⟨width, some_octet, one_word⟩ := fixed_length_eq_some.1 found
    rw [spelled "bytes" split]
    exact .fixedBytes width some_octet one_word
  · rename_i digits split
    obtain ⟨bits, found, rfl⟩ := Option.map_eq_some_iff.mp sized
    obtain ⟨width, whole, some_octet, one_word⟩ := bits_eq_some.1 found
    rw [spelled "uint" split]
    exact .sizedUint width whole some_octet one_word
  · rename_i digits split
    obtain ⟨bits, found, rfl⟩ := Option.map_eq_some_iff.mp sized
    obtain ⟨width, whole, some_octet, one_word⟩ := bits_eq_some.1 found
    rw [spelled "int" split]
    exact .sizedInt width whole some_octet one_word
  · cases sized

/-- A family's name with a width behind it is none of the names without one. -/
theorem Primitive.of_name_of_digits {family : String} {digits : List Char} {n : Nat}
    (width : IsWidth digits n) (sized : family ∈ ["bytes", "uint", "int"]) :
    ofName? (family ++ String.ofList digits) = ofSized? (family.toList ++ digits) := by
  obtain ⟨c, rest, rfl⟩ := List.exists_cons_of_ne_nil width.some_digit
  have spelled : (family ++ String.ofList (c :: rest)).toList = family.toList ++ c :: rest := by
    rw [String.toList_append, String.toList_ofList]
  have differs : ∀ {other : String}, family.toList ++ c :: rest ≠ other.toList →
      family ++ String.ofList (c :: rest) ≠ other := by
    intro other ne same
    exact ne (by rw [← same, spelled])
  simp only [List.mem_cons, List.not_mem_nil, or_false] at sized
  rw [ofName?, spelled]
  rcases sized with rfl | rfl | rfl <;>
    rw [if_neg (differs (by simp)), if_neg (differs (by simp)), if_neg (differs (by simp)),
      if_neg (differs (by simp)), if_neg (differs (by simp)), if_neg (differs (by simp))]

theorem Primitive.of_name_eq_some {name : String} {primitive : Primitive} :
    ofName? name = some primitive ↔ Named name primitive := by
  constructor
  · intro named
    unfold ofName? at named
    iterate 6
      split at named
      · rename_i same
        cases same
        cases named
        constructor
    exact named_of_sized named
  · intro named
    cases named with
    | address | bool | string | bytes | uint | int => rfl
    | @fixedBytes digits _ width some_octet one_word =>
        rw [of_name_of_digits width (by simp)]
        change (fixedLength? digits).map Primitive.fixedBytes = _
        rw [fixed_length_eq_some.2 ⟨width, some_octet, one_word⟩]
        rfl
    | @sizedUint digits _ width whole some_octet one_word =>
        rw [of_name_of_digits width (by simp)]
        change (bits? digits).map Primitive.uint = _
        rw [bits_eq_some.2 ⟨width, whole, some_octet, one_word⟩]
        rfl
    | @sizedInt digits _ width whole some_octet one_word =>
        rw [of_name_of_digits width (by simp)]
        change (bits? digits).map Primitive.int = _
        rw [bits_eq_some.2 ⟨width, whole, some_octet, one_word⟩]
        rfl

/-- The name has no bracket, so it is no array and is its own base. -/
def IsPlainName (name : String) : Prop := '[' ∉ name.toList ∧ ']' ∉ name.toList

instance (name : String) : Decidable (IsPlainName name) := inferInstanceAs (Decidable (_ ∧ _))

theorem IsPlainName.append {family : String} {digits : List Char} {n : Nat}
    (plain : IsPlainName family) (width : IsWidth digits n) :
    IsPlainName (family ++ String.ofList digits) := by
  rw [IsPlainName, String.toList_append, String.toList_ofList, List.mem_append, List.mem_append,
    not_or, not_or]
  exact ⟨⟨plain.1, width.no_bracket.1⟩, plain.2, width.no_bracket.2⟩

theorem Primitive.Named.plain {name : String} {primitive : Primitive}
    (named : Named name primitive) : IsPlainName name := by
  cases named with
  | address | bool | string | bytes | uint | int => decide
  | fixedBytes width | sizedUint width | sizedInt width =>
      exact IsPlainName.append (by decide) width

theorem IsPlainName.shape_eq {name : String} (plain : IsPlainName name) :
    shape name = .ok .single := by
  unfold shape
  split
  · rename_i body reversed
    have listed : ']' ∈ name.toList := by
      rw [← List.mem_reverse, reversed]
      exact List.mem_cons_self
    exact absurd listed plain.2
  · rfl

theorem IsPlainName.base_name_eq {name : String} (plain : IsPlainName name) :
    baseName name = name := by
  rw [baseName, Front.before_absent plain.1, String.ofList_toList]

/-! ## Array suffixes -/

/-- An array suffix, with the count of elements it asks for. -/
inductive IsSuffix : (suffix : String) → Option Nat → Prop
  | dynamic : IsSuffix "[]" none
  | fixed {digits : List Char} {n : Nat} (width : IsWidth digits n) :
      IsSuffix ("[" ++ String.ofList digits ++ "]") (some n)

theorem IsSuffix.shape_eq {suffix : String} {length : Option Nat} (suffixed : IsSuffix suffix length)
    (element : String) : shape (element ++ suffix) = .ok (.array element length) := by
  cases suffixed with
  | dynamic =>
      simp [shape]
  | @fixed digits n width =>
      have reversed : (element ++ ("[" ++ String.ofList digits ++ "]")).toList.reverse =
          ']' :: (digits.reverse ++ '[' :: element.toList.reverse) := by
        simp
      have absent : '[' ∉ digits.reverse :=
        fun listed => width.no_bracket.1 (List.mem_reverse.mp listed)
      simp only [shape, reversed, Front.from_mark absent, Front.before_mark absent]
      simp [width_eq_some.2 width, width.some_digit]

/-- What is read as an array type is its element type with a suffix behind it. -/
theorem suffix_of_shape {type element : String} {length : Option Nat}
    (array : shape type = .ok (.array element length)) :
    ∃ suffix, type = element ++ suffix ∧ IsSuffix suffix length := by
  unfold shape at array
  split at array
  case h_2 => cases array
  rename_i body reversed
  split at array
  case h_1 => cases array
  rename_i bracket front opened
  have cut : type.toList =
      front.reverse ++ '[' :: ((body.takeWhile (· ≠ '[')).reverse ++ [']']) := by
    rw [← List.reverse_reverse type.toList, reversed, List.reverse_cons]
    conv_lhs => rw [Front.cut_of_from opened]
    simp
  have joined : ∀ {suffix : String},
      suffix.toList = '[' :: ((body.takeWhile (· ≠ '[')).reverse ++ [']']) →
      type = String.ofList front.reverse ++ suffix := by
    intro suffix chars
    rw [← String.toList_inj, cut, String.toList_append, String.toList_ofList, chars]
  split at array
  · rename_i empty
    cases array
    exact ⟨"[]", joined (by rw [empty]; rfl), .dynamic⟩
  · split at array
    case h_2 => cases array
    rename_i n width
    cases array
    exact ⟨_, joined (by simp), .fixed (width_eq_some.1 width)⟩

theorem IsSuffix.base_name_eq {suffix : String} {length : Option Nat}
    (suffixed : IsSuffix suffix length) (element : String) :
    baseName (element ++ suffix) = baseName element := by
  obtain ⟨rest, opened⟩ : ∃ rest, suffix.toList = '[' :: rest := by
    cases suffixed with
    | dynamic => exact ⟨_, rfl⟩
    | @fixed digits => exact ⟨digits ++ [']'], by simp⟩
  rw [baseName, baseName, String.toList_append, opened, List.takeWhile_append]
  split
  · rename_i whole
    have all : element.toList.takeWhile (· ≠ '[') = element.toList :=
      (List.takeWhile_prefix _).eq_of_length whole
    rw [all]
    simp
  · rfl

end SignedTx.TypedData
