import SignedTx.Ledger.Transaction
import SignedTx.Proofs.Outcome

/-!
# What validation fixes

A valid header is in whole seconds, within the window and of the chain of the rules, and the parts
of a valid transaction are active at its timestamp. The window ends at a sum that is kept within 64
bits; for a timestamp in whole seconds it may as well be the exact sum. That the rules are sensible
is not claimed: any window and any limits count.
-/

set_option autoImplicit false

namespace SignedTx

theorem Header.validate_eq_ok_iff {header : Header} {rules : Rules} {now : Int64} :
    header.validate rules now = .ok () ↔ header.timestamp % 1000 = 0 ∧ ¬ header.timestamp < now ∧
      ¬ saturatingAdd64 now rules.validityWindow < header.timestamp ∧
      header.chainId = rules.chainId := by
  simp only [validate, Outcome.refusal_eq_ok_iff, ne_eq, Decidable.not_not, and_true]

theorem Header.validate_eq_expired_iff {header : Header} {rules : Rules}
    {now timestamp time : Int64} : header.validate rules now = .error (.expired timestamp time) ↔
      header.timestamp % 1000 = 0 ∧ header.timestamp < now ∧
        header.timestamp = timestamp ∧ now = time := by
  simp only [validate, Outcome.refusal_eq_error_iff, ne_eq, Decidable.not_not, reduceCtorEq,
    and_false, or_false, false_or, TxError.expired.injEq]

/-! ## Exact times -/

/-- Sixty-four bits hold the sum, or the end of their range that it has passed. -/
theorem to_int_saturating_add (a b : Int64) : (saturatingAdd64 a b).toInt =
    max Int64.minValue.toInt (min Int64.maxValue.toInt (a.toInt + b.toInt)) := by
  have least : Int64.minValue.toInt = -2 ^ 63 := by decide
  have greatest : Int64.maxValue.toInt = 2 ^ 63 - 1 := by decide
  unfold saturatingAdd64
  by_cases low : a.toInt + b.toInt < Int64.minValue.toInt
  · simp only [if_pos low]
    omega
  · by_cases high : Int64.maxValue.toInt < a.toInt + b.toInt
    · simp only [if_neg low, if_pos high]
      omega
    · simp only [if_neg low, if_neg high]
      rw [Int64.toInt_ofInt_of_le (by omega) (by omega)]
      omega

/-- A remainder that is cut off towards zero is zero on both sides of it. -/
theorem aligned_iff {time : Int64} : time % 1000 = 0 ↔ (1000 : Int) ∣ time.toInt := by
  rw [← Int64.toInt_inj, Int64.toInt_mod, Int.dvd_iff_tmod_eq_zero]
  exact Iff.rfl

/-- The end of the window is cut off at the top, where no timestamp is beyond it, or at the bottom,
where every timestamp but the least is; and the least is in no whole second. -/
theorem beyond_window_iff {now window time : Int64} (aligned : time % 1000 = 0) :
    saturatingAdd64 now window < time ↔ now.toInt + window.toInt < time.toInt := by
  have least : Int64.minValue.toInt = -2 ^ 63 := by decide
  have greatest : Int64.maxValue.toInt = 2 ^ 63 - 1 := by decide
  have lower : -2 ^ 63 ≤ time.toInt := time.le_toInt
  have upper : time.toInt < 2 ^ 63 := time.toInt_lt
  have second : (1000 : Int) ∣ time.toInt := aligned_iff.1 aligned
  rw [Int64.lt_iff_toInt_lt, to_int_saturating_add]
  omega

/-- Both ends, where there are any, are on the right side of a time. -/
def ValidRange.Covers (range : ValidRange) (time : Int) : Prop :=
  (∀ first ∈ range.first, first.toInt ≤ time) ∧ ∀ last ∈ range.last, time ≤ last.toInt

theorem ValidRange.contains_iff {range : ValidRange} {time : Int64} :
    range.contains time = true ↔ range.Covers time.toInt := by
  rcases range with ⟨first, last⟩
  cases first <;> cases last <;> simp [contains, Covers, Int64.le_iff_toInt_le]

namespace Transaction

variable {rules : Rules} {time : Int64}

theorem check_actions_eq_ok_iff {actions : List Action} :
    checkActions rules time actions = .ok () ↔
      ∀ action ∈ actions, (action.validRange rules).Covers time.toInt := by
  induction actions with
  | nil => simp [checkActions]
  | cons action rest induction =>
      rw [List.forall_mem_cons, ← induction, ← ValidRange.contains_iff, checkActions,
        Outcome.passage_eq_ok_iff]

theorem check_actions_of_error {actions : List Action} {e : TxError}
    (refused : checkActions rules time actions = .error e) :
    ∃ typeId, e = .notActive .action typeId time := by
  induction actions with
  | nil => cases refused
  | cons action rest induction =>
      rcases Outcome.passage_eq_error_iff.1 refused with ⟨-, rfl⟩ | ⟨-, later⟩
      · exact ⟨action.typeId, rfl⟩
      · exact induction later

theorem check_credential_eq_ok_iff {credential : Option Credential} :
    checkCredential rules time credential = .ok () ↔
      ∀ found ∈ credential, (found.validRange rules).Covers time.toInt := by
  cases credential with
  | none => simp [checkCredential]
  | some credential =>
      simp only [checkCredential, Outcome.passage_eq_ok_iff, and_true, Option.mem_some_iff,
        forall_eq', ValidRange.contains_iff]

theorem check_credential_of_error {credential : Option Credential} {e : TxError}
    (refused : checkCredential rules time credential = .error e) :
    ∃ typeId, e = .notActive .credential typeId time := by
  cases credential with
  | none => cases refused
  | some credential =>
      rcases Outcome.passage_eq_error_iff.1 refused with ⟨-, rfl⟩ | ⟨-, passed⟩
      · exact ⟨credential.typeId, rfl⟩
      · cases passed

end Transaction

/-! ## Valid headers -/

theorem Transaction.header_of_validate {tx : Transaction} {rules : Rules} {now : Int64}
    (validated : tx.validate rules now = .ok ()) :
    tx.header.timestamp % 1000 = 0 ∧ tx.header.chainId = rules.chainId := by
  rcases Outcome.bind_eq_ok_iff.1 validated with ⟨_, header, -⟩
  rcases Header.validate_eq_ok_iff.1 header with ⟨aligned, -, -, chain⟩
  exact ⟨aligned, chain⟩

/-- A timestamp in whole seconds is its second. -/
theorem thousand_mul_second {time : Int64} (aligned : time % 1000 = 0) :
    1000 * time.toInt.fdiv 1000 = time.toInt :=
  Int.mul_fdiv_cancel_of_dvd (aligned_iff.1 aligned)

theorem timestamp_eq_of_second_eq {left right : Int64} (leftAligned : left % 1000 = 0)
    (rightAligned : right % 1000 = 0) (second : left.toInt.fdiv 1000 = right.toInt.fdiv 1000) :
    left = right := by
  apply Int64.toInt_inj.mp
  rw [← thousand_mul_second leftAligned, ← thousand_mul_second rightAligned, second]

/-- Of two transactions valid under the same rules, the second of expiry and the fee are all of the
header that can differ. -/
theorem Transaction.header_eq_of_validate {left right : Transaction} {rules : Rules}
    {leftNow rightNow : Int64} (leftValid : left.validate rules leftNow = .ok ())
    (rightValid : right.validate rules rightNow = .ok ())
    (second : left.header.timestamp.toInt.fdiv 1000 = right.header.timestamp.toInt.fdiv 1000)
    (fee : left.header.maxFee = right.header.maxFee) : left.header = right.header := by
  rcases header_of_validate leftValid with ⟨leftAligned, leftChain⟩
  rcases header_of_validate rightValid with ⟨rightAligned, rightChain⟩
  have timestamp := timestamp_eq_of_second_eq leftAligned rightAligned second
  have chain := leftChain.trans rightChain.symm
  calc left.header
      = ⟨left.header.timestamp, left.header.chainId, left.header.maxFee⟩ := rfl
    _ = ⟨right.header.timestamp, right.header.chainId, right.header.maxFee⟩ := by
        rw [timestamp, chain, fee]
    _ = right.header := rfl

end SignedTx
