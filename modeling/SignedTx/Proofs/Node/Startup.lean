import SignedTx.Node.Startup
import SignedTx.Node.Validation
import SignedTx.Proofs.Outcome
import SignedTx.Proofs.Signing.Stock
import SignedTx.Proofs.Text.Bech32.LetterCase

/-!
# What settings without faults start

Settings that pass the check can be started: their texts are read again and nothing else can fail.
The registry is the stock one under the projection that the settings describe, and addresses can be
written under the human-readable part. That a node with faulty settings does not start is not
claimed; some of them start.
-/

set_option autoImplicit false

namespace SignedTx.Node

/-- What holds of the 256 octets, taken one by one, holds of any. -/
theorem of_each_octet {holds : UInt8 → Prop} (each : ∀ n < 256, holds (UInt8.ofNat n))
    (byte : UInt8) : holds byte := by
  have here := each byte.toNat byte.toNat_lt
  rwa [UInt8.ofNat_toNat] at here

/-- An octet of a human-readable part is visible and no capital. -/
theorem visible_of_hrp_octet {byte : UInt8} (allowed : isHrpOctet byte = true) :
    (33 ≤ byte ∧ byte ≤ 126) ∧ Bech32.isUpper (Char.ofNat byte.toNat) = false := by
  revert byte
  apply of_each_octet
  decide +kernel

theorem check_hrp_of_faultless {presentation : Presentation}
    (faultless : presentationFaults presentation = []) :
    ∃ seen, Bech32.checkHrp presentation.hrp = .ok seen := by
  rcases presentation_faults_eq_nil_iff.1 faultless with ⟨some_octets, short, allowed, -⟩
  have usable : ¬ ((utf8 presentation.hrp).isEmpty = true ∨ 83 < (utf8 presentation.hrp).length) := by
    rw [List.isEmpty_iff]
    rw [maxHrpLength] at short
    rintro (empty | long)
    · exact some_octets empty
    · omega
  rw [Bech32.checkHrp, if_neg usable]
  exact Bech32.case_of_no_upper _ (fun byte member => (visible_of_hrp_octet (allowed byte member)).1)
    (fun byte member => (visible_of_hrp_octet (allowed byte member)).2)

theorem Config.presentation_of_projection {config : Config} {projection : Projection}
    (built : config.projection = .ok projection) :
    projection.presentation = config.presentation := by
  rcases Outcome.bind_eq_ok_iff.1 built with ⟨_, -, made⟩
  cases made
  rfl

/-- Only the chain's id and the contract's account are read, and both are checked. -/
theorem Config.start_of_check {crypto : Crypto} {config : Config}
    (accepted : config.check crypto.sha = .ok ()) : ∃ runtime, config.start crypto = .ok runtime := by
  rcases Config.faults_eq_nil_iff.1 (Config.check_eq_ok_iff.1 accepted) with
    ⟨chain, -, domain, -⟩
  rcases ChainSection.faults_eq_nil_iff.1 chain with ⟨⟨id, named⟩, -⟩
  rcases DomainSection.faults_eq_nil_iff.1 domain with ⟨-, -, ⟨account, held⟩, -⟩
  have rules : ∃ rules, config.rules crypto.sha = .ok rules := by
    rw [Config.rules, named]
    exact ⟨_, rfl⟩
  have projection : ∃ projection, config.projection = .ok projection := by
    rw [Config.projection, held]
    exact ⟨_, rfl⟩
  rcases rules with ⟨rules, ruled⟩
  rcases projection with ⟨projection, shown⟩
  rw [Config.start, ruled, shown]
  exact ⟨_, rfl⟩

theorem Config.runtime_of_start {crypto : Crypto} {config : Config} {runtime : Runtime}
    (started : config.start crypto = .ok runtime) :
    runtime.projection.presentation = config.presentation ∧
      runtime.registry = Registry.stockTables crypto runtime.projection := by
  rcases Outcome.bind_eq_ok_iff.1 started with ⟨rules, -, later⟩
  rcases Outcome.bind_eq_ok_iff.1 later with ⟨projection, shown, rest⟩
  cases rest
  exact ⟨Config.presentation_of_projection shown, rfl⟩

end SignedTx.Node
