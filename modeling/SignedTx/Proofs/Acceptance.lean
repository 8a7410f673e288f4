import SignedTx.Proofs.Ledger.Decoding
import SignedTx.Proofs.Ledger.Validation

/-!
# What validation accepts

Validation accepts exactly the transactions that meet the rules in exact integers, whatever the
window and the limits are. For one transaction the accepted times are one interval that ends at its
timestamp. What is accepted can be written within the size limit, if its parts report their true
sizes; that its credential verifies is not claimed.
-/

set_option autoImplicit false

namespace SignedTx

namespace Transaction

/-- What a chain asks of a transaction at a time, in exact integers. -/
structure IsAdmissible (tx : Transaction) (rules : Rules) (now : Int64) : Prop where
  whole_second : (1000 : Int) ∣ tx.header.timestamp.toInt
  not_before : tx.header.timestamp.toInt - rules.validityWindow.toInt ≤ now.toInt
  not_after : now.toInt ≤ tx.header.timestamp.toInt
  chain : tx.header.chainId = rules.chainId
  count : tx.actions.length ≤ min rules.maxActions maxActions
  size : tx.size ≤ rules.maxSize
  actions : ∀ action ∈ tx.actions,
    (action.validRange rules).Covers tx.header.timestamp.toInt
  credential : ∀ credential ∈ tx.credential,
    (credential.validRange rules).Covers tx.header.timestamp.toInt

variable {tx : Transaction} {rules : Rules} {now later : Int64}

/-- The checks of validation are independent of each other. -/
theorem validate_eq_ok_iff_checks : tx.validate rules now = .ok () ↔
    tx.header.validate rules now = .ok () ∧
      tx.actions.length ≤ min rules.maxActions maxActions ∧ tx.size ≤ rules.maxSize ∧
      checkActions rules tx.header.timestamp tx.actions = .ok () ∧
      checkCredential rules tx.header.timestamp tx.credential = .ok () := by
  unfold validate
  simp only [Outcome.bind_eq_ok_iff, Outcome.guard_eq_ok_iff, Nat.not_lt]
  constructor
  · intro parts
    rcases parts with ⟨_, header, count, size, _, actions, credential⟩
    exact ⟨header, count, size, actions, credential⟩
  · intro parts
    rcases parts with ⟨header, count, size, actions, credential⟩
    exact ⟨(), header, count, size, (), actions, credential⟩

/-- Every check says in 64 bits what the rules say in exact integers. -/
theorem validate_eq_ok_iff_admissible :
    tx.validate rules now = .ok () ↔ tx.IsAdmissible rules now := by
  rw [validate_eq_ok_iff_checks, Header.validate_eq_ok_iff, check_actions_eq_ok_iff,
    check_credential_eq_ok_iff, Int64.lt_iff_toInt_lt]
  constructor
  · intro parts
    rcases parts with ⟨⟨aligned, live, near, chain⟩, count, size, actions, credential⟩
    rw [beyond_window_iff aligned] at near
    exact ⟨aligned_iff.1 aligned, by omega, by omega, chain, count, size, actions, credential⟩
  · intro admissible
    have aligned := aligned_iff.2 admissible.whole_second
    have notBefore := admissible.not_before
    have notAfter := admissible.not_after
    refine ⟨⟨aligned, by omega, ?_, admissible.chain⟩, admissible.count, admissible.size,
      admissible.actions, admissible.credential⟩
    rw [beyond_window_iff aligned]
    omega

/-- Only two of the conditions look at the time, one from each side. -/
theorem IsAdmissible.between {first last : Int64} (admissible : tx.IsAdmissible rules first)
    (admissibleLast : tx.IsAdmissible rules last) (lower : first ≤ now) (upper : now ≤ last) :
    tx.IsAdmissible rules now := by
  have notBefore := admissible.not_before
  have notAfter := admissibleLast.not_after
  rw [Int64.le_iff_toInt_le] at lower upper
  exact { admissible with not_before := by omega, not_after := by omega }

/-- A transaction is called expired if and only if it is in whole seconds and its time is over: no
other check is looked at then, and no other check gives this error. -/
theorem validate_eq_expired_iff {timestamp time : Int64} :
    tx.validate rules now = .error (.expired timestamp time) ↔
      tx.header.timestamp % 1000 = 0 ∧ tx.header.timestamp < now ∧
        tx.header.timestamp = timestamp ∧ now = time := by
  have header_iff : tx.header.validate rules now = .error (.expired timestamp time) ↔ _ :=
    Header.validate_eq_expired_iff
  rw [← header_iff]
  unfold validate
  rw [Outcome.bind_eq_error_iff]
  constructor
  · intro parts
    rcases parts with header | ⟨_, -, later⟩
    · exact header
    · simp only [Outcome.guard_eq_error_iff, Outcome.bind_eq_error_iff, reduceCtorEq, and_false,
        false_or] at later
      rcases later with ⟨-, -, actions | ⟨_, -, credential⟩⟩
      · rcases check_actions_of_error actions with ⟨_, other⟩
        cases other
      · rcases check_credential_of_error credential with ⟨_, other⟩
        cases other
  · intro header
    exact .inl header

end Transaction

/-- Validation accepts exactly what is admissible. The times at which a transaction is accepted have
no gap, and once it is expired it stays so. What is accepted can be written, with no more octets than
the rules allow, if its parts report their true sizes. -/
theorem acceptance_is_one_interval (tx : Transaction) (rules : Rules) :
    (∀ now, tx.validate rules now = .ok () ↔ tx.IsAdmissible rules now) ∧
    (∀ first now last, first ≤ now → now ≤ last → tx.validate rules first = .ok () →
      tx.validate rules last = .ok () → tx.validate rules now = .ok ()) ∧
    (∀ now later, now ≤ later →
      tx.validate rules now = .error (.expired tx.header.timestamp now) →
      tx.validate rules later = .error (.expired tx.header.timestamp later)) ∧
    ∀ now, tx.validate rules now = .ok () → tx.Truthful →
      ∃ bytes, tx.toBytes = .ok bytes ∧ bytes.length ≤ rules.maxSize := by
  refine ⟨fun now => Transaction.validate_eq_ok_iff_admissible, ?_, ?_, ?_⟩
  · intro first now last lower upper accepted acceptedLast
    rw [Transaction.validate_eq_ok_iff_admissible] at accepted acceptedLast ⊢
    exact accepted.between acceptedLast lower upper
  · intro now later upper expired
    rcases Transaction.validate_eq_expired_iff.1 expired with ⟨aligned, past, -, -⟩
    apply Transaction.validate_eq_expired_iff.2
    refine ⟨aligned, ?_, rfl, rfl⟩
    rw [Int64.lt_iff_toInt_lt] at past ⊢
    rw [Int64.le_iff_toInt_le] at upper
    omega
  · intro now accepted truthful
    have admissible := Transaction.validate_eq_ok_iff_admissible.1 accepted
    have count : tx.actions.length ≤ maxActions := by
      have bounded := admissible.count
      omega
    refine ⟨tx.layout, Transaction.to_bytes_eq_layout count truthful, ?_⟩
    rw [Transaction.length_layout truthful]
    exact admissible.size

/-- A transfer whose time is before the epoch, under rules with the longest window. -/
def earlyTransfer : Transaction where
  header := ⟨-1000, Identifier.zero, 10⟩
  actions := [Transfer.toAction ⟨⟨Octets.zero 33⟩, 7⟩]

def patientRules : Rules where
  chainId := Identifier.zero
  validityWindow := Int64.maxValue
  maxSize := 92

/-- The sum of the present and the window leaves 64 bits neither at the first time at which the
transfer is accepted nor at the last; it is expired when the sum does. -/
theorem early_transfer_is_accepted_until_its_time :
    earlyTransfer.validate patientRules Int64.minValue = .ok () ∧
      earlyTransfer.validate patientRules (-1000) = .ok () ∧
      earlyTransfer.validate patientRules (-5000) = .ok () ∧
      earlyTransfer.validate patientRules Int64.maxValue =
        .error (.expired (-1000) Int64.maxValue) ∧
      ∃ bytes, earlyTransfer.toBytes = .ok bytes ∧ bytes.length ≤ 92 := by
  rcases acceptance_is_one_interval earlyTransfer patientRules with
    ⟨-, noGap, staysExpired, written⟩
  have first : earlyTransfer.validate patientRules Int64.minValue = .ok () := rfl
  have last : earlyTransfer.validate patientRules (-1000) = .ok () := rfl
  have truthful : earlyTransfer.Truthful := by
    constructor
    · intro action member
      rw [List.mem_singleton.mp member]
      exact Transfer.action_truthful _
    · intro credential member
      cases member
  exact ⟨first, last, noGap _ (-5000) _ (by decide) (by decide) first last,
    staysExpired (-999) _ (by decide) rfl, written _ first truthful⟩

end SignedTx
