import SignedTx.Text.Quoted

/-!
# Records in logs

A record is written as its name and, between braces, its fields as `name: text`. A record that hides
some of its fields ends in two points.
-/

set_option autoImplicit false

namespace SignedTx.Record

abbrev Fields := List (String × String)

private def items (fields : Fields) : List String :=
  fields.map fun (name, text) => name ++ ": " ++ text

private def braced (name : String) (items : List String) : String :=
  name ++ " \x7b " ++ String.intercalate ", " items ++ " \x7d"

def display (name : String) (fields : Fields) : String := braced name (items fields)

def displayPart (name : String) (fields : Fields) : String := braced name (items fields ++ [".."])

end SignedTx.Record
