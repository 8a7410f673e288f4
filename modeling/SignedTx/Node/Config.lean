import SignedTx.Node.Source
import SignedTx.Signing.Projection

/-!
# Settings of a node

Four sections: the chain's rules, how addresses and balances are shown, the signing domain, and the
log. Only the chain's id must be given; every other setting has a default. A field or a section that
is not known, and a number that its type does not hold, make the whole settings unreadable.
-/

set_option autoImplicit false

namespace SignedTx.Node

private def stockRules : Rules := { chainId := Identifier.zero }

private def stockProjection : Projection := {}

structure ChainSection where
  chainId : String
  validityWindow : Int64 := stockRules.validityWindow
  maxActions : Nat := stockRules.maxActions
  baseUnits : UInt64 := stockRules.baseUnits
  maxSize : Nat := stockRules.maxSize
deriving DecidableEq, Repr

structure DomainSection where
  name : String := stockProjection.domainName
  version : String := stockProjection.domainVersion
  verifyingContract : String := Hex.encodeMarked stockProjection.verifyingContract.toList
  maxSafeChainId : UInt64 := stockProjection.maxSafeChainId
deriving DecidableEq, Repr

structure LogSection where
  level : String := "info"
deriving DecidableEq, Repr

structure Config where
  chain : ChainSection
  presentation : Presentation := {}
  domain : DomainSection := {}
  log : LogSection := {}
deriving DecidableEq, Repr

/-! ## Reading -/

namespace Source

variable {α : Type} (source : Source α)

private def optional {β : Type} (read : α → Option β) (default : β) : Option α → Option β
  | none => some default
  | some value => read value

private def naturalBelow (bound : Nat) (value : α) : Option Nat :=
  (source.natural? value).filter (· < bound)

/-- A count of as many octets as a machine word can name. -/
private def count (value : α) : Option Nat := naturalBelow source UInt64.size value

private def uint64 (value : α) : Option UInt64 := (count source value).map UInt64.ofNat

private def uint8 (value : α) : Option UInt8 :=
  (naturalBelow source UInt8.size value).map UInt8.ofNat

private def int64 (value : α) : Option Int64 :=
  ((source.integer? value).filter fun n =>
    Int64.minValue.toInt ≤ n && n ≤ Int64.maxValue.toInt).map Int64.ofInt

private def chainSection (value : α) : Option ChainSection := do
  let names := ["chain_id", "validity_window_ms", "max_actions_per_tx", "base_compute_units",
    "max_tx_size"]
  match ← source.record? names value with
  | [some chainId, window, actions, units, size] =>
    return {
      chainId := ← source.text? chainId
      validityWindow := ← optional (int64 source) stockRules.validityWindow window
      maxActions := ← optional (count source) stockRules.maxActions actions
      baseUnits := ← optional (uint64 source) stockRules.baseUnits units
      maxSize := ← optional (count source) stockRules.maxSize size }
  | _ => none

private def presentationSection (value : α) : Option Presentation := do
  let default : Presentation := {}
  match ← source.record? ["hrp", "decimals"] value with
  | [hrp, decimals] =>
    return {
      hrp := ← optional source.text? default.hrp hrp
      decimals := ← optional (uint8 source) default.decimals decimals }
  | _ => none

private def domainSection (value : α) : Option DomainSection := do
  let default : DomainSection := {}
  let names := ["domain_name", "domain_version", "verifying_contract", "max_safe_chain_id"]
  match ← source.record? names value with
  | [name, version, contract, maxSafe] =>
    return {
      name := ← optional source.text? default.name name
      version := ← optional source.text? default.version version
      verifyingContract := ← optional source.text? default.verifyingContract contract
      maxSafeChainId := ← optional (uint64 source) default.maxSafeChainId maxSafe }
  | _ => none

private def logSection (value : α) : Option LogSection := do
  let default : LogSection := {}
  match ← source.record? ["log_level"] value with
  | [level] => return { level := ← optional source.text? default.level level }
  | _ => none

def config? (value : α) : Option Config := do
  match ← source.record? ["chain", "presentation", "eip712", "observability"] value with
  | [some chain, presentation, domain, log] =>
    return {
      chain := ← chainSection source chain
      presentation := ← optional (presentationSection source) {} presentation
      domain := ← optional (domainSection source) {} domain
      log := ← optional (logSection source) {} log }
  | _ => none

end Source

end SignedTx.Node
