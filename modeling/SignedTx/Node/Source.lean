import SignedTx.Json.Basic
import SignedTx.Text.Digits
import SignedTx.Yaml.Basic

/-!
# Where settings come from

Settings are records of texts and numbers, whatever language they are written in. A source says how
a language writes these: which values are records with none but the given fields, which are texts,
and which are whole numbers. Numbers that may be negative are told from those that may not, since a
language can refuse a sign in front of the latter.
-/

set_option autoImplicit false

namespace SignedTx.Node

structure Source (α : Type) where
  /-- The values of a record's fields, none for a missing one; other fields are refused. -/
  record? : List String → α → Option (List (Option α))
  text? : α → Option String
  natural? : α → Option Nat
  integer? : α → Option Int

namespace Source

/-- JSON: records as objects or as lists of their fields, and numbers without point or exponent. -/
def json : Source Json where
  record? := fun names value =>
    match value with
    | .object members =>
      if members.all fun (name, _) => names.contains name then value.fields? names else none
    | _ => value.fields? names
  text? := Json.string?
  natural? := fun value => (value.integer?.filter (0 ≤ ·)).map Int.toNat
  integer? := Json.integer?

/-! ## YAML -/

def markedDigits? : List Char → Option (Nat × List Char)
  | '0' :: 'x' :: digits => some (16, digits)
  | '0' :: 'o' :: digits => some (8, digits)
  | '0' :: 'b' :: digits => some (2, digits)
  | _ => none

/-- A number without a sign; leading zeros make a decimal one a text. -/
def magnitude? (text : List Char) : Option Nat :=
  match markedDigits? text with
  | some (base, digits) => if digits.isEmpty then none else Digits.toNat? base digits
  | none =>
    if text.head? = some '0' ∧ 1 < text.length then none else Digits.decimal? text

def naturalOfText? : List Char → Option Nat
  | '+' :: rest => magnitude? rest
  | text => magnitude? text

def integerOfText? : List Char → Option Int
  | '-' :: rest => (magnitude? rest).map fun n => -(n : Int)
  | text => (naturalOfText? text).map Int.ofNat

/-- The text of a scalar that can be a number: a plain one, or one under a bar tagged so. -/
def numeral? : Yaml → Option (List Char)
  | .scalar .plain _ text => some text.toList
  | .scalar .literal tag text => if tag = Yaml.integerTag then some text.toList else none
  | _ => none

/-- The fields of a mapping without foreign or repeated keys. -/
def entries? (names : List String) (entries : List (String × Yaml)) :
    Option (List (Option Yaml)) :=
  let keys := entries.map Prod.fst
  if keys.all names.contains && keys.eraseDups.length = keys.length then
    some (names.map fun name => entries.lookup name)
  else none

/-- YAML: records as mappings, an empty plain scalar among them; any scalar is a text. -/
def yaml : Source Yaml where
  record? := fun names value =>
    match value with
    | .mapping entries => entries? names entries
    | .scalar style _ text =>
      if style = .plain && text.isEmpty then entries? names [] else none
  text? := fun value =>
    match value with
    | .scalar _ _ text => some text
    | .mapping _ => none
  natural? := fun value => (numeral? value).bind naturalOfText?
  integer? := fun value => (numeral? value).bind integerOfText?

end Source
end SignedTx.Node
