import SignedTx.Ledger.Transaction
import SignedTx.Text.Instant
import SignedTx.TypedData.Document

/-!
# Drafts as typed data

A wallet shows a draft as a struct of four fields: when it expires, the largest fee, the action's
name and the action's members. Only a draft with exactly one action has this form. The chain id of
the domain is reduced modulo a bound that wallets can hold, unless the bound is zero.
-/

set_option autoImplicit false

namespace SignedTx

/-- How drafts are shown to wallets. -/
structure Projection where
  presentation : Presentation := {}
  domainName : String := "HyperSDK"
  domainVersion : String := "1"
  verifyingContract : Octets 20 := Octets.zero 20
  maxSafeChainId : UInt64 := 4503599627370476
deriving DecidableEq

namespace Projection

/-- The domain's chain id: the id as a number, reduced unless the bound is zero. -/
def chainNumber (projection : Projection) (chainId : Identifier) : TypedData.Word256 :=
  let number := chainId.toNat
  let bound := projection.maxSafeChainId.toNat
  BitVec.ofNat 256 (if bound = 0 then number else number % bound)

def domain (projection : Projection) (chainId : Identifier) : TypedData.Domain where
  name := some projection.domainName
  version := some projection.domainVersion
  chainId := some (projection.chainNumber chainId)
  verifyingContract := some projection.verifyingContract

def primaryType : String := "Transaction"

def paramsType : String := "Params"

/-- The types of a draft with an action whose members have the given types. -/
def schema (domain : TypedData.Domain) (params : List TypedData.Field) : TypedData.Schema := [
  (TypedData.domainType, domain.fields),
  (paramsType, params),
  (primaryType, [
    ⟨"expiration", "string"⟩, ⟨"maxFee", "string"⟩, ⟨"action", "string"⟩, ⟨"params", paramsType⟩])]

/-- The second in which a timestamp lies, in calendar form. -/
def expiration (timestamp : Int64) : Except TxError String :=
  match Instant.toText? (timestamp.toInt.fdiv 1000) with
  | some text => .ok text
  | none => .error (.invalidField s!"timestamp {timestamp} out of range")

def document (projection : Projection) (draft : Draft) : Except TxError TypedData.Document :=
  match draft.actions with
  | [action] => do
    let domain := projection.domain draft.header.chainId
    let expiration ← expiration draft.header.timestamp
    let params ← action.toJson projection.presentation
    return {
      types := schema domain action.typedFields
      primaryType := primaryType
      domain := domain
      message := [
        ("action", .string action.name),
        ("expiration", .string expiration),
        ("maxFee", .string (projection.presentation.formatBalance draft.header.maxFee)),
        ("params", .object params)] }
  | actions => .error (.unsupportedActionCount actions.length)

def signingHash (hash : HashFunction) (projection : Projection) (draft : Draft) :
    Except TxError Digest := do
  let document ← projection.document draft
  (document.signingHash hash).mapError .typedData

end Projection
end SignedTx
