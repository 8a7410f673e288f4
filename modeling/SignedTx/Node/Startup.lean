import SignedTx.Node.Config
import SignedTx.Signing.Stock

/-!
# Starting a node

Settings become rules, a projection of drafts and the stock registry, in this order. Settings with
faults can be started too: only the chain's id and the contract's account have to be read here.
-/

set_option autoImplicit false

namespace SignedTx.Node

inductive StartError
  | chainId (cause : FormatError)
  | verifyingContract (cause : TxError)
  | registry (cause : TxError)
deriving DecidableEq, Repr

namespace StartError

def field : StartError → Option String
  | .chainId _ => some "chain.chain_id"
  | .verifyingContract _ => some "eip712.verifying_contract"
  | .registry _ => none

def reason : StartError → String
  | .chainId cause => cause.message
  | .verifyingContract cause | .registry cause => cause.message

def message (e : StartError) : String :=
  match e.field with
  | some field => "invalid " ++ field ++ ": " ++ e.reason
  | none => "failed to build type registry: " ++ e.reason

end StartError

namespace Config

def rules (hash : HashFunction) (config : Config) : Except StartError Rules := do
  let chain := config.chain
  let chainId ← (Identifier.ofText hash chain.chainId).mapError .chainId
  return {
    chainId
    validityWindow := chain.validityWindow
    maxActions := chain.maxActions
    baseUnits := chain.baseUnits
    maxSize := chain.maxSize }

def projection (config : Config) : Except StartError Projection := do
  let domain := config.domain
  let contract ← (Account.ofText domain.verifyingContract).mapError .verifyingContract
  return {
    presentation := config.presentation
    domainName := domain.name
    domainVersion := domain.version
    verifyingContract := contract
    maxSafeChainId := domain.maxSafeChainId }

end Config

structure Runtime where
  rules : Rules
  presentation : Presentation
  projection : Projection
  registry : Registry

def Config.start (crypto : Crypto) (config : Config) : Except StartError Runtime := do
  let rules ← config.rules crypto.sha
  let projection ← config.projection
  let registry ← (Registry.stock crypto projection).mapError .registry
  return { rules, presentation := config.presentation, projection, registry }

end SignedTx.Node
