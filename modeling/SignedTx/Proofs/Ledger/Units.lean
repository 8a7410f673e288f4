import Mathlib.Algebra.BigOperators.Group.List.Basic
import Mathlib.Algebra.GroupWithZero.Nat
import SignedTx.Ledger.Transaction
import SignedTx.Ledger.Transfer

/-!
# Prices

A price is an exact sum that stops at the largest number of units. It is formed in three stages, over
the actions, the base and the credential, and each stage stops there by itself. No addend is negative,
so what one stage has cut off no later one needs back, and clamping on the way comes to the same as
clamping in the end. The rest is seen in the exact sum: it does not know the order of the actions, and
no part takes anything away from it.
-/

set_option autoImplicit false

namespace SignedTx

/-- A number of units, or the largest one that can be named. -/
def clampUnits (units : Nat) : Nat := min (2 ^ 64 - 1) units

theorem clamp_units_lt (units : Nat) : clampUnits units < 2 ^ 64 := by
  unfold clampUnits
  omega

theorem clamp_units_of_lt {units : Nat} (small : units < 2 ^ 64) : clampUnits units = units := by
  unfold clampUnits
  omega

theorem clamp_units_mono {less more : Nat} (ordered : less ≤ more) :
    clampUnits less ≤ clampUnits more := by
  unfold clampUnits
  omega

/-- Clamping an addend beforehand leaves the clamped sum as it is. -/
theorem clamp_clamp_add (before added : Nat) :
    clampUnits (clampUnits before + added) = clampUnits (before + added) := by
  unfold clampUnits
  omega

theorem clamp_add_clamp (before added : Nat) :
    clampUnits (before + clampUnits added) = clampUnits (before + added) := by
  rw [Nat.add_comm, clamp_clamp_add, Nat.add_comm]

theorem to_nat_saturating_add_units (a b : UInt64) :
    (saturatingAddUnits a b).toNat = clampUnits (a.toNat + b.toNat) := by
  have bounded := clamp_units_lt (a.toNat + b.toNat)
  change (UInt64.ofNat (clampUnits (a.toNat + b.toNat))).toNat = clampUnits (a.toNat + b.toNat)
  rw [UInt64.toNat_ofNat']
  exact Nat.mod_eq_of_lt bounded

namespace Transaction

variable {tx other : Transaction} {rules : Rules}

/-- The units of actions, added without a limit. -/
def actionUnits (rules : Rules) (actions : List Action) : Nat :=
  (actions.map fun action => (action.computeUnits rules).toNat).sum

/-- Base, actions and credential, added without a limit. -/
def exactUnits (tx : Transaction) (rules : Rules) : Nat :=
  rules.baseUnits.toNat + actionUnits rules tx.actions +
    (tx.credential.map fun credential => (credential.computeUnits rules).toNat).getD 0

/-- The stage over the actions, from any sum that stands before them. -/
theorem to_nat_fold_units (rules : Rules) (actions : List Action) (start : UInt64) :
    (actions.foldl (fun sum action => saturatingAddUnits sum (action.computeUnits rules))
      start).toNat = clampUnits (start.toNat + actionUnits rules actions) := by
  induction actions generalizing start with
  | nil => exact (clamp_units_of_lt start.toNat_lt).symm
  | cons action later induction =>
      have joined : actionUnits rules (action :: later) =
          (action.computeUnits rules).toNat + actionUnits rules later := List.sum_cons
      rw [List.foldl_cons, induction, to_nat_saturating_add_units, clamp_clamp_add, joined,
        Nat.add_assoc]

theorem to_nat_compute_units (tx : Transaction) (rules : Rules) :
    (tx.computeUnits rules).toNat = clampUnits (tx.exactUnits rules) := by
  have last : ((tx.credential.map fun part : Credential => part.computeUnits rules).getD 0).toNat =
      (tx.credential.map fun part : Credential => (part.computeUnits rules).toNat).getD 0 := by
    cases tx.credential with
    | none => rfl
    | some part => rfl
  unfold computeUnits exactUnits
  rw [to_nat_saturating_add_units, to_nat_saturating_add_units, to_nat_fold_units,
    UInt64.toNat_zero, Nat.zero_add, clamp_add_clamp, clamp_clamp_add, last]

theorem compute_units_eq_of_exact (same : tx.exactUnits rules = other.exactUnits rules) :
    tx.computeUnits rules = other.computeUnits rules := by
  apply UInt64.toNat_inj.mp
  rw [to_nat_compute_units, to_nat_compute_units, same]

theorem compute_units_le_of_exact (ordered : tx.exactUnits rules ≤ other.exactUnits rules) :
    tx.computeUnits rules ≤ other.computeUnits rules := by
  apply UInt64.le_iff_toNat_le.mpr
  rw [to_nat_compute_units, to_nat_compute_units]
  exact clamp_units_mono ordered

theorem action_units_of_perm {left right : List Action} (reordered : left.Perm right) :
    actionUnits rules left = actionUnits rules right :=
  (reordered.map _).sum_eq

/-- An action adds its own units, wherever it is put. -/
theorem action_units_insert (front back : List Action) (action : Action) :
    actionUnits rules (front ++ action :: back) =
      (action.computeUnits rules).toNat + actionUnits rules (front ++ back) := by
  rw [action_units_of_perm List.perm_middle]
  exact List.sum_cons

/-- The price is the exact sum, or the largest number of units if the sum is beyond it. Transactions
that differ in the order of their actions alone have one price, and neither an action, at any place,
nor a credential lowers it. -/
theorem price_is_exact_up_to_the_largest (tx : Transaction) (rules : Rules) :
    (tx.computeUnits rules).toNat = min (2 ^ 64 - 1) (tx.exactUnits rules) ∧
      (∀ actions, actions.Perm tx.actions →
        computeUnits { tx with actions := actions } rules = tx.computeUnits rules) ∧
      (∀ front back action, tx.actions = front ++ back →
        tx.computeUnits rules ≤
          computeUnits { tx with actions := front ++ action :: back } rules) ∧
      ∀ credential, tx.credential = none →
        tx.computeUnits rules ≤ computeUnits { tx with credential := some credential } rules := by
  refine ⟨to_nat_compute_units tx rules, ?_, ?_, ?_⟩
  · intro actions reordered
    apply compute_units_eq_of_exact
    unfold exactUnits
    rw [action_units_of_perm reordered]
  · intro front back action parted
    apply compute_units_le_of_exact
    unfold exactUnits
    apply Nat.add_le_add_right
    apply Nat.add_le_add_left
    rw [parted, action_units_insert]
    exact Nat.le_add_left _ _
  · intro credential unsigned
    apply compute_units_le_of_exact
    unfold exactUnits
    rw [unsigned]
    exact Nat.le_add_right _ _

/-! ## A sum that leaves 64 bits -/

def pricedTransfer (units : UInt64) : Action :=
  { Transfer.toAction ⟨⟨Octets.zero 33⟩, 7⟩ with computeUnits := fun _ => units }

/-- Vouches for nothing, at a price. -/
def pricedCredential (units : UInt64) : Credential where
  typeId := 7
  computeUnits := fun _ => units
  validRange := fun _ => .always
  verify := fun _ => .error .invalidSignature
  actor := Address.zero
  sponsor := Address.zero
  size := 0
  fields := []

/-- Half of the numbers of units. -/
def halfUnits : UInt64 := 0x8000000000000000

/-- Half of the units that can be named, and five more. -/
def halfPriced : Transaction where
  header := ⟨0, Identifier.zero, 0⟩
  actions := [pricedTransfer halfUnits, pricedTransfer 5]

/-- With a second half between the actions the exact sum is 2^64 + 6, and the price is the largest
number of units, not six. -/
theorem two_halves_cost_the_largest_price :
    let rules : Rules := { chainId := Identifier.zero }
    let doubled : Transaction :=
      { halfPriced with
        actions := [pricedTransfer halfUnits, pricedTransfer halfUnits, pricedTransfer 5] }
    (halfPriced.computeUnits rules).toNat = 2 ^ 63 + 6 ∧
      computeUnits { halfPriced with actions := [pricedTransfer 5, pricedTransfer halfUnits] } rules =
        halfPriced.computeUnits rules ∧
      doubled.exactUnits rules = 2 ^ 64 + 6 ∧ (doubled.computeUnits rules).toNat = 2 ^ 64 - 1 ∧
      halfPriced.computeUnits rules ≤ doubled.computeUnits rules ∧
      halfPriced.computeUnits rules ≤
        computeUnits { halfPriced with credential := some (pricedCredential halfUnits) } rules := by
  intro rules doubled
  obtain ⟨halfPrice, reordered, extended, signed⟩ := price_is_exact_up_to_the_largest halfPriced rules
  have doublePrice := (price_is_exact_up_to_the_largest doubled rules).1
  have halfSum : halfPriced.exactUnits rules = 2 ^ 63 + 6 := by decide
  have doubleSum : doubled.exactUnits rules = 2 ^ 64 + 6 := by decide
  rw [halfSum] at halfPrice
  rw [doubleSum] at doublePrice
  exact ⟨halfPrice, reordered _ (List.Perm.swap _ _ _), doubleSum, doublePrice,
    extended [pricedTransfer halfUnits] [pricedTransfer 5] (pricedTransfer halfUnits) rfl,
    signed (pricedCredential halfUnits) rfl⟩

end Transaction
end SignedTx
