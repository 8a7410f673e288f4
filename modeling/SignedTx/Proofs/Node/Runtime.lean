import SignedTx.Crypto.Secp256k1
import SignedTx.Proofs.Node.Startup
import SignedTx.Proofs.Signing.ShownTexts
import SignedTx.Proofs.Text.Base58

/-!
# Settings without faults make a working runtime

The check reads texts and numbers by rules of its own. Here each of them is shown to be at least as
strict as what uses the setting later: the chain's id is that of its text, the number of actions has
an octet, addresses are read back under the human-readable part, and the typed scheme can hash every
transfer in the calendar. So no mistake in the settings is left for signing or verification.
-/

set_option autoImplicit false

namespace SignedTx

namespace Node

theorem hrp_is_small_of_faultless {presentation : Presentation}
    (faultless : presentationFaults presentation = []) : Bech32.IsSmall presentation.hrp := by
  rcases presentation_faults_eq_nil_iff.1 faultless with ⟨-, -, allowed, -⟩
  intro c listed
  by_contra capital
  rw [Bool.not_eq_false, Bech32.isUpper, Bool.and_eq_true, decide_eq_true_eq,
    decide_eq_true_eq] at capital
  have upper : c.toNat ≤ 90 := capital.2
  have octet : (UInt8.ofNat c.toNat).toNat = c.toNat := by
    rw [UInt8.toNat_ofNat']
    omega
  have small := (visible_of_hrp_octet
    (allowed _ (mem_utf8_of_mem_chars listed (by omega)))).2
  rw [octet, Char.ofNat_toNat, Bech32.isUpper, decide_eq_true capital.1,
    decide_eq_true capital.2] at small
  cases small

theorem Config.settings_of_start {crypto : Crypto} {config : Config} {runtime : Runtime}
    (started : config.start crypto = .ok runtime) :
    Identifier.ofText crypto.sha config.chain.chainId = .ok runtime.rules.chainId ∧
      runtime.rules.maxActions = config.chain.maxActions ∧
      runtime.presentation = config.presentation := by
  rcases Outcome.bind_eq_ok_iff.1 started with ⟨rules, ruled, later⟩
  rcases Outcome.bind_eq_ok_iff.1 later with ⟨projection, -, rest⟩
  rcases Outcome.bind_eq_ok_iff.1 ruled with ⟨id, named, made⟩
  cases rest
  cases made
  exact ⟨Outcome.map_error_eq_ok_iff.1 named, rfl, rfl⟩

end Node

/-- Settings that pass the check start a node whose rules allow from 1 to 255 actions and hold the
id that the chain's text denotes, whose addresses are all read back from their texts, and whose
projection makes and hashes the document of every transfer in the calendar. -/
theorem accepted_config_has_working_runtime (crypto : Crypto) (config : Node.Config)
    (accepted : config.check crypto.sha = .ok ()) :
    ∃ runtime, config.start crypto = .ok runtime ∧
      (1 ≤ runtime.rules.maxActions ∧ runtime.rules.maxActions ≤ 255) ∧
      Identifier.ofText crypto.sha config.chain.chainId = .ok runtime.rules.chainId ∧
      runtime.rules.chainId.toText crypto.sha = config.chain.chainId ∧
      (∀ address, ∃ text, runtime.presentation.formatAddress address = .ok text ∧
        runtime.presentation.parseAddress text = .ok address) ∧
      ∀ (tx : Transaction) (transfer : Transfer), tx.actions = [transfer.toAction] →
        Instant.isInRange (tx.header.timestamp.toInt.fdiv 1000) = true →
        ∃ document digest, runtime.projection.document tx.toDraft = .ok document ∧
          document.signingHash crypto.keccak = .ok digest := by
  obtain ⟨runtime, started⟩ := Node.Config.start_of_check accepted
  obtain ⟨named, count, presentation⟩ := Node.Config.settings_of_start started
  have projected := (Node.Config.runtime_of_start started).1
  obtain ⟨chain, faultless, -, -⟩ :=
    Node.Config.faults_eq_nil_iff.1 (Node.Config.check_eq_ok_iff.1 accepted)
  obtain ⟨-, -, some_action, few, -⟩ := Node.ChainSection.faults_eq_nil_iff.1 chain
  obtain ⟨seen, usable⟩ := Node.check_hrp_of_faultless faultless
  have small := Node.hrp_is_small_of_faultless faultless
  refine ⟨runtime, started, ?_, named, Identifier.to_text_of_text named, ?_, ?_⟩
  · rw [count]
    exact ⟨Nat.pos_of_ne_zero some_action, few⟩
  · intro address
    rw [presentation]
    obtain ⟨text, shown⟩ := address.to_bech32_of_hrp usable
    exact ⟨text, shown, Address.of_bech32_to_bech32 small shown⟩
  · intro tx transfer one inside
    rw [← projected] at usable
    obtain ⟨document, shown⟩ :=
      (Projection.document_exists_iff one).mpr ⟨⟨seen, usable⟩, inside⟩
    obtain ⟨expiration, recipient, -, -, rfl⟩ := Projection.document_of_transfer one shown
    exact ⟨_, _, shown, Projection.signing_hash_of_transfer ..⟩

/-! ## Settings at the bounds -/

/-- The separator in the human-readable part, all decimals and as many actions as an octet counts. -/
def boundaryConfig : Node.Config where
  chain := { chainId := "2c7iUW3kCDwRA9ZFd5bjZZc8iDy68uAsFSBahjqSZGttiTDSNH", maxActions := 255 }
  presentation := { hrp := "1~", decimals := 19 }

theorem boundary_config_accepted : boundaryConfig.check Crypto.standard.sha = .ok () := by
  rw [Node.Config.check_eq_ok_iff, Node.Config.faults_eq_nil_iff]
  decide +kernel

def lastSecondTransaction : Transaction where
  header := ⟨8210266876799999, Identifier.zero, 1⟩
  actions := [Transfer.toAction ⟨Address.zero, 1⟩]

/-- The zero address is read back, and a transfer in the last second of the calendar has a hash. -/
theorem boundary_config_has_working_runtime :
    ∃ runtime, boundaryConfig.start Crypto.standard = .ok runtime ∧
      runtime.rules.maxActions ≤ 255 ∧
      runtime.rules.chainId.toText Crypto.standard.sha =
        "2c7iUW3kCDwRA9ZFd5bjZZc8iDy68uAsFSBahjqSZGttiTDSNH" ∧
      (∃ text, runtime.presentation.formatAddress Address.zero = .ok text ∧
        runtime.presentation.parseAddress text = .ok Address.zero) ∧
      ∃ document digest, runtime.projection.document lastSecondTransaction.toDraft = .ok document ∧
        document.signingHash Crypto.standard.keccak = .ok digest := by
  obtain ⟨runtime, started, ⟨-, few⟩, -, text, addresses, hashes⟩ :=
    accepted_config_has_working_runtime Crypto.standard boundaryConfig boundary_config_accepted
  have inside : Instant.isInRange
      (lastSecondTransaction.header.timestamp.toInt.fdiv 1000) = true := by
    decide
  exact ⟨runtime, started, few, text, addresses Address.zero,
    hashes lastSecondTransaction _ rfl inside⟩

end SignedTx
