import SignedTx.Octets

/-!
# Hash functions

A hash function takes any octets to 32 octets. Nothing more is asked of it here: what a statement
needs, such as injectivity on the strings that are hashed, is a hypothesis of that statement.
-/

set_option autoImplicit false

namespace SignedTx

abbrev Digest := Octets 32

abbrev HashFunction := List UInt8 → Digest

end SignedTx
