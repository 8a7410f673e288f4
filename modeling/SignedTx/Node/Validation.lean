import SignedTx.Node.Config
import SignedTx.Node.LogFilter
import SignedTx.Signing.Account

/-!
# Faults of settings

Settings that can be read can still make no sense. All faults are collected, section by section, so
they can be mended in one go; each has one cause and its own wording. A log filter that is cut
inside a character leaves the settings without a verdict.
-/

set_option autoImplicit false

namespace SignedTx.Node

inductive Fault
  | chainId (text : String) (cause : FormatError)
  | validityWindow
  | maxActions
  | maxSize
  | hrpLength
  | hrpCharacters (hrp : String)
  | decimals
  | domainName
  | domainVersion
  | verifyingContract (cause : TxError)
  | maxSafeChainId
  | logLevel (text : String) (cause : LogFilter.Error)
deriving DecidableEq, Repr

/-- The most decimal places for which one whole unit is below 2⁶⁴. -/
def maxDecimals : UInt8 := 19

def maxHrpLength : Nat := 83

def Fault.message : Fault → String
  | .chainId text cause =>
    "chain.chain_id '" ++ text ++ "' is not a valid CB58 id: " ++ cause.message
  | .validityWindow => "chain.validity_window_ms must be greater than 0"
  | .maxActions => s!"chain.max_actions_per_tx must be between 1 and {SignedTx.maxActions}"
  | .maxSize => "chain.max_tx_size must be greater than 0"
  | .hrpLength => s!"presentation.hrp must be 1 to {maxHrpLength} characters"
  | .hrpCharacters hrp => "presentation.hrp '" ++ hrp ++ "' must be lowercase printable ASCII"
  | .decimals => s!"presentation.decimals must be at most {maxDecimals}"
  | .domainName => "eip712.domain_name cannot be empty"
  | .domainVersion => "eip712.domain_version cannot be empty"
  | .verifyingContract cause => "eip712.verifying_contract: " ++ cause.message
  | .maxSafeChainId => "eip712.max_safe_chain_id must be greater than 0"
  | .logLevel text cause =>
    "observability.log_level '" ++ text ++ "' is not a valid filter: " ++ cause.message

private def faultIf (condition : Bool) (fault : Fault) : List Fault :=
  if condition then [fault] else []

/-- The fault of a setting that another part of the library reads. -/
private def faultOf {α ε : Type} (result : Except ε α) (fault : ε → Fault) : List Fault :=
  match result with
  | .ok _ => []
  | .error cause => [fault cause]

private theorem fault_if_eq_nil_iff {condition : Bool} {fault : Fault} :
    faultIf condition fault = [] ↔ condition = false := by
  cases condition <;> simp [faultIf]

private theorem fault_of_eq_nil_iff {α ε : Type} {result : Except ε α} {fault : ε → Fault} :
    faultOf result fault = [] ↔ ∃ value, result = .ok value := by
  cases result <;> simp [faultOf]

namespace ChainSection

def faults (hash : HashFunction) (chain : ChainSection) : List Fault :=
  faultOf (Identifier.ofText hash chain.chainId) (.chainId chain.chainId) ++
    faultIf (chain.validityWindow ≤ 0) .validityWindow ++
    faultIf (chain.maxActions = 0 || SignedTx.maxActions < chain.maxActions) .maxActions ++
    faultIf (chain.maxSize = 0) .maxSize

theorem faults_eq_nil_iff {hash : HashFunction} {chain : ChainSection} :
    chain.faults hash = [] ↔ (∃ id, Identifier.ofText hash chain.chainId = .ok id) ∧
      ¬ chain.validityWindow ≤ 0 ∧ chain.maxActions ≠ 0 ∧
      chain.maxActions ≤ SignedTx.maxActions ∧ chain.maxSize ≠ 0 := by
  simp [faults, fault_if_eq_nil_iff, fault_of_eq_nil_iff, and_assoc]

end ChainSection

def isHrpOctet (byte : UInt8) : Bool :=
  33 ≤ byte && byte ≤ 126 && !(65 ≤ byte && byte ≤ 90)

def presentationFaults (presentation : Presentation) : List Fault :=
  let hrp := utf8 presentation.hrp
  faultIf (hrp.isEmpty || maxHrpLength < hrp.length) .hrpLength ++
    faultIf (!hrp.all isHrpOctet) (.hrpCharacters presentation.hrp) ++
    faultIf (maxDecimals < presentation.decimals) .decimals

theorem presentation_faults_eq_nil_iff {presentation : Presentation} :
    presentationFaults presentation = [] ↔ utf8 presentation.hrp ≠ [] ∧
      (utf8 presentation.hrp).length ≤ maxHrpLength ∧
      (∀ byte ∈ utf8 presentation.hrp, isHrpOctet byte = true) ∧
      ¬ maxDecimals < presentation.decimals := by
  simp [presentationFaults, fault_if_eq_nil_iff, and_assoc]

namespace DomainSection

def faults (domain : DomainSection) : List Fault :=
  faultIf domain.name.isEmpty .domainName ++
    faultIf domain.version.isEmpty .domainVersion ++
    faultOf (Account.ofText domain.verifyingContract) .verifyingContract ++
    faultIf (domain.maxSafeChainId = 0) .maxSafeChainId

theorem faults_eq_nil_iff {domain : DomainSection} :
    domain.faults = [] ↔ domain.name ≠ "" ∧ domain.version ≠ "" ∧
      (∃ account, Account.ofText domain.verifyingContract = .ok account) ∧
      domain.maxSafeChainId ≠ 0 := by
  simp [faults, fault_if_eq_nil_iff, fault_of_eq_nil_iff]

end DomainSection

/-- The faults of the log filter, if its text can be cut. -/
def LogSection.faults? (log : LogSection) : Option (List Fault) :=
  match LogFilter.parse log.level with
  | .ok _ => some []
  | .error (.refused cause) => some [.logLevel log.level cause]
  | .error .brokenCharacter => none

def Config.faults? (hash : HashFunction) (config : Config) : Option (List Fault) :=
  config.log.faults?.map fun faults =>
    config.chain.faults hash ++ presentationFaults config.presentation ++ config.domain.faults ++
      faults

def faultsMessage (faults : List Fault) : String :=
  "config validation failed:\n" ++ String.intercalate "\n" (faults.map Fault.message)

inductive Rejection
  | faulty (faults : List Fault)
  | brokenCharacter
deriving DecidableEq, Repr

def Config.check (hash : HashFunction) (config : Config) : Except Rejection Unit :=
  match config.faults? hash with
  | some [] => .ok ()
  | some faults => .error (.faulty faults)
  | none => .error .brokenCharacter

theorem Config.faults_eq_nil_iff {hash : HashFunction} {config : Config} :
    config.faults? hash = some [] ↔ config.chain.faults hash = [] ∧
      presentationFaults config.presentation = [] ∧ config.domain.faults = [] ∧
      config.log.faults? = some [] := by
  rw [Config.faults?, Option.map_eq_some_iff]
  simp only [List.append_eq_nil_iff]
  constructor
  · intro parts
    rcases parts with ⟨_, log, ⟨⟨chain, presentation⟩, domain⟩, rfl⟩
    exact ⟨chain, presentation, domain, log⟩
  · intro parts
    rcases parts with ⟨chain, presentation, domain, log⟩
    exact ⟨[], log, ⟨⟨chain, presentation⟩, domain⟩, rfl⟩

theorem Config.check_eq_ok_iff {hash : HashFunction} {config : Config} :
    config.check hash = .ok () ↔ config.faults? hash = some [] := by
  unfold Config.check
  cases config.faults? hash with
  | none => simp
  | some faults => cases faults <;> simp

end SignedTx.Node
