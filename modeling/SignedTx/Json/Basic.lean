import SignedTx.Text.Double

/-!
# JSON values

An object is a list of members with ascending keys, each key once; `insert` and the reader keep it
so, and a look-up takes the first member with the key. Integers are exact; the reader makes one only
of a number without point or exponent from -2⁶³ to 2⁶⁴ - 1, every other number is a double.
-/

set_option autoImplicit false

namespace SignedTx

namespace Json

inductive Number
  | integer (value : Int)
  | double (value : Double)
deriving DecidableEq, Repr

end Json

inductive Json
  | null
  | bool (value : Bool)
  | number (value : Json.Number)
  | string (value : String)
  | array (items : List Json)
  | object (members : List (String × Json))

namespace Json

abbrev Object := List (String × Json)

instance : Inhabited Json := ⟨.null⟩

def Object.get? (members : Object) (key : String) : Option Json := members.lookup key

/-- Puts a value under a key, at its place in the order of keys. -/
def Object.insert (key : String) (value : Json) : Object → Object
  | [] => [(key, value)]
  | (other, old) :: rest =>
    if key < other then (key, value) :: (other, old) :: rest
    else if key = other then (key, value) :: rest
    else (other, old) :: Object.insert key value rest

/-- The object with the given members, the last of several with one key. -/
def Object.ofList (members : List (String × Json)) : Object :=
  members.foldl (fun object member => object.insert member.1 member.2) []

def ofNat (n : Nat) : Json := .number (.integer n)

def ofMembers (members : List (String × Json)) : Json := .object (Object.ofList members)

def string? : Json → Option String
  | .string value => some value
  | _ => none

def bool? : Json → Option Bool
  | .bool value => some value
  | _ => none

def array? : Json → Option (List Json)
  | .array items => some items
  | _ => none

def object? : Json → Option Object
  | .object members => some members
  | _ => none

def integer? : Json → Option Int
  | .number (.integer value) => some value
  | _ => none

def integerIn? (low high : Int) (json : Json) : Option Int :=
  json.integer?.filter fun value => low ≤ value && value ≤ high

/--
The values of a record's fields, none for a missing one. A record is written as an object or as the
list of all its fields in order; a longer list is refused, and a shorter one lacks its last fields.
-/
def fields? (names : List String) : Json → Option (List (Option Json))
  | .object members => some (names.map fun name => Object.get? members name)
  | .array items =>
    if items.length ≤ names.length then
      some (items.map some ++ List.replicate (names.length - items.length) none)
    else none
  | _ => none

end Json
end SignedTx
