import SignedTx.Ledger.Registry
import SignedTx.Signing.Scheme
import SignedTx.Text.Record

/-!
# Signers and registries in logs

A registry shows which type ids it knows. A signer shows its address and, if it signs typed data,
how it presents drafts; its keys are not shown.
-/

set_option autoImplicit false

namespace SignedTx

def DecoderTable.display {α : Type} (table : DecoderTable α) : String :=
  let ids := table.typeIds.map fun id => String.ofList (Digits.decimal id.toNat)
  Record.display "TypeParser" [
    ("family", Quoted.text table.family.label),
    ("type_ids", "[" ++ String.intercalate ", " ids ++ "]")]

def Registry.display (registry : Registry) : String :=
  Record.display "Registry" [
    ("actions", registry.actions.display), ("auths", registry.credentials.display)]

def Presentation.display (presentation : Presentation) : String :=
  Record.display "Presentation" [
    ("hrp", Quoted.text presentation.hrp), ("decimals", toString presentation.decimals.toNat)]

def Projection.display (projection : Projection) : String :=
  Record.display "TypedTxSettings" [
    ("presentation", projection.presentation.display),
    ("domain_name", Quoted.text projection.domainName),
    ("domain_version", Quoted.text projection.domainVersion),
    ("verifying_contract", Hex.encodeMarked projection.verifyingContract.toList),
    ("max_safe_chain_id", toString projection.maxSafeChainId.toNat)]

namespace KeyPair

variable {crypto : Crypto}

def displayRaw (pair : KeyPair crypto) : String :=
  Record.displayPart "Secp256k1Factory" [("address", (pair.address RawScheme.typeId).display)]

def displayTyped (pair : KeyPair crypto) (projection : Projection) : String :=
  Record.displayPart "Eip712Factory" [
    ("address", (pair.address TypedScheme.typeId).display), ("settings", projection.display)]

end KeyPair
end SignedTx
