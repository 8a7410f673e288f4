import SignedTx.Octets

/-!
# Why typed data cannot be hashed

A value is refused for one of four causes, each with the type it arose at.
-/

set_option autoImplicit false

namespace SignedTx.TypedData

inductive Error
  | unknownType (type : String)
  | missingField (type field : String)
  | invalidValue (type reason : String)
  | arrayLength (type : String) (expected actual : Nat)
deriving DecidableEq, Repr

def Error.message : Error → String
  | .unknownType type => "unknown type '" ++ type ++ "'"
  | .missingField type field =>
    "missing field '" ++ field ++ "' in value of type '" ++ type ++ "'"
  | .invalidValue type reason => "invalid value for type '" ++ type ++ "': " ++ reason
  | .arrayLength type expected actual =>
    "array of type '" ++ type ++ s!"' expected {expected} elements, got {actual}"

end SignedTx.TypedData
