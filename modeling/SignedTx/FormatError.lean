import SignedTx.Text.Hex

/-!
# Faults of wire data and of text forms

Each constructor is one cause; `message` is the only place with wording. The causes that come from
a text carry the reason or the text itself.
-/

set_option autoImplicit false

namespace SignedTx

inductive FormatError
  | capacityExceeded (limit requested : Nat)
  | insufficientBytes (needed remaining : Nat)
  | trailingBytes (count : Nat)
  | invalidBool (byte : UInt8)
  | invalidLength (expected actual : Nat)
  | invalidCb58 (reason : String)
  | invalidBech32 (reason : String)
  | invalidBalance (text : String)
deriving DecidableEq, Repr

def FormatError.message : FormatError → String
  | .capacityExceeded limit requested =>
    s!"write exceeds limit: {requested} bytes requested, limit is {limit}"
  | .insufficientBytes needed remaining =>
    s!"insufficient bytes: needed {needed}, {remaining} remaining"
  | .trailingBytes count => s!"{count} trailing bytes after decode"
  | .invalidBool byte => "invalid bool byte " ++ Hex.encodeMarked [byte]
  | .invalidLength expected actual => s!"invalid length: expected {expected}, got {actual}"
  | .invalidCb58 reason => "invalid cb58 string: " ++ reason
  | .invalidBech32 reason => "invalid bech32 address: " ++ reason
  | .invalidBalance text => "invalid balance '" ++ text ++ "'"

end SignedTx
