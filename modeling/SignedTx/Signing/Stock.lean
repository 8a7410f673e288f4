import SignedTx.Ledger.Transfer
import SignedTx.Signing.Scheme

/-!
# The stock registry

Transfers and both signing schemes, registered in this order.
-/

set_option autoImplicit false

namespace SignedTx

/--
Registers both schemes, the raw one first. If only the second is refused, the first stays
registered: the result is the registry after the call together with its outcome.
-/
def Registry.addStockSchemes (crypto : Crypto) (projection : Projection) (registry : Registry) :
    Except TxError Unit × Registry :=
  let raw : Decode Credential := do return RawScheme.credential (← RawScheme.decode crypto)
  let typed : Decode Credential := do
    return TypedScheme.credential projection (← TypedScheme.decode crypto)
  match registry.credentials.register RawScheme.typeId raw with
  | .error e => (.error e, registry)
  | .ok credentials =>
    let registry := { registry with credentials }
    match registry.credentials.register TypedScheme.typeId typed with
    | .error e => (.error e, registry)
    | .ok credentials => (.ok (), { registry with credentials })

def Registry.stock (crypto : Crypto) (projection : Projection) : Except TxError Registry := do
  let registry ← Registry.empty.addStockActions
  match registry.addStockSchemes crypto projection with
  | (.ok (), registry) => return registry
  | (.error e, _) => throw e

end SignedTx
