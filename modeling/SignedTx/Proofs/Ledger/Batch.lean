import Mathlib.Data.List.Basic
import SignedTx.Ledger.Batch
import SignedTx.Proofs.Outcome

/-!
# What a batch keeps

Filtering a batch by its own results keeps the transactions that verify, each beside its place in
the batch: the two lists that come out are one list of pairs taken apart, so they cannot get out of
step. One step of the filter looks at one transaction and its result; the induction lets the batch
begin at any place. Of results that come from elsewhere only their number is a subject here.
-/

set_option autoImplicit false

namespace SignedTx.Batch

/-! ## Results of a batch -/

/-- The results of transactions whose places begin at a given one. -/
def verifyFrom (first : Nat) (txs : List Transaction) : List Verification :=
  (txs.zipIdx first).map fun (tx, index) => ⟨index, tx.verify⟩

theorem verify_eq (txs : List Transaction) : verify txs = verifyFrom 0 txs := rfl

theorem verify_from_cons (first : Nat) (tx : Transaction) (rest : List Transaction) :
    verifyFrom first (tx :: rest) = ⟨first, tx.verify⟩ :: verifyFrom (first + 1) rest := by
  rw [verifyFrom, List.zipIdx_cons, List.map_cons]
  rfl

theorem length_verify (txs : List Transaction) : (verify txs).length = txs.length := by
  rw [verify, List.length_map, List.length_zipIdx]

theorem get_verify {txs : List Transaction} {i : Nat} {tx : Transaction}
    (found : txs[i]? = some tx) : (verify txs)[i]? = some ⟨i, tx.verify⟩ := by
  rw [verify, List.getElem?_map, List.getElem?_zipIdx, found, Nat.zero_add]
  rfl

theorem verifies_iff (tx : Transaction) : tx.verify.isOk = true ↔ tx.verify = .ok () := by
  constructor
  · intro success
    obtain ⟨⟨⟩, verified⟩ := Outcome.exists_of_is_ok success
    exact verified
  · intro verified
    rw [verified]
    rfl

/-! ## The filter -/

/-- One step: the transaction is kept beside its result's index, or it leaves no trace. -/
theorem verified_cons (tx : Transaction) (rest : List Transaction) (outcome : Verification)
    (results : List Verification) :
    verified (tx :: rest) (outcome :: results) =
      if outcome.result.isOk then (tx, outcome.index) :: verified rest results
      else verified rest results := by
  rw [verified, List.zip_cons_cons, List.filterMap_cons]
  by_cases success : outcome.result.isOk = true
  · simp only [success, if_true]
    rfl
  · simp only [success, Bool.false_eq_true, if_false]
    rfl

/-- By its own results a batch keeps what verifies, with places. -/
theorem verified_of_verify_from (first : Nat) (txs : List Transaction) :
    verified txs (verifyFrom first txs) =
      (txs.zipIdx first).filter fun pair => pair.1.verify.isOk := by
  induction txs generalizing first with
  | nil => rfl
  | cons tx rest induction =>
      rw [verify_from_cons, verified_cons, induction, List.zipIdx_cons, List.filter_cons]

theorem mem_verified_iff {txs : List Transaction} {tx : Transaction} {i : Nat} :
    (tx, i) ∈ verified txs (verify txs) ↔ txs[i]? = some tx ∧ tx.verify = .ok () := by
  rw [verify_eq, verified_of_verify_from, List.mem_filter, List.mk_mem_zipIdx_iff_getElem?,
    verifies_iff]

theorem places_ascend (txs : List Transaction) :
    ((verified txs (verify txs)).map Prod.snd).Pairwise (· < ·) := by
  have places : ((txs.zipIdx).map Prod.snd).Pairwise (· < ·) := by
    rw [List.zipIdx_map_snd]
    exact List.pairwise_lt_range' 1
  have fewer : (verified txs (verify txs)).Sublist txs.zipIdx := by
    rw [verify_eq, verified_of_verify_from]
    exact List.filter_sublist
  exact places.sublist (fewer.map Prod.snd)

theorem filter_of_length_eq {txs : List Transaction} {results : List Verification}
    (counted : txs.length = results.length) :
    filter txs results =
      .ok ((verified txs results).map Prod.fst, (verified txs results).map Prod.snd) := by
  rw [filter, if_pos counted]

theorem filter_of_length_ne {txs : List Transaction} {results : List Verification}
    (differs : txs.length ≠ results.length) :
    filter txs results = .error ⟨txs.length, results.length⟩ := by
  rw [filter, if_neg differs]

/-- A batch has one result for each transaction, at its place and with its place. The filter takes
these results and keeps the transactions that verify, with their places in ascending order: a place
is listed exactly if the transaction there verifies, and that transaction is kept beside it. Results
are refused exactly if there are more or fewer of them than transactions. -/
theorem batch_keeps_what_verifies (txs : List Transaction) :
    (verify txs).length = txs.length ∧
      (∀ (i : Nat) (tx : Transaction), txs[i]? = some tx →
        (verify txs)[i]? = some ⟨i, tx.verify⟩) ∧
      (∃ kept places, filter txs (verify txs) = .ok (kept, places) ∧
        kept.length = places.length ∧ places.Pairwise (· < ·) ∧
        (∀ i, i ∈ places ↔ ∃ tx, txs[i]? = some tx ∧ tx.verify = .ok ()) ∧
        ∀ j i : Nat, places[j]? = some i → ∃ tx, txs[i]? = some tx ∧ kept[j]? = some tx) ∧
      ∀ results, (∃ mismatch, filter txs results = .error mismatch) ↔
        results.length ≠ txs.length := by
  refine ⟨length_verify txs, fun _ _ => get_verify, ?_, ?_⟩
  · have counted : txs.length = (verify txs).length := (length_verify txs).symm
    refine ⟨_, _, filter_of_length_eq counted, ?_, places_ascend txs, ?_, ?_⟩
    · rw [List.length_map, List.length_map]
    · intro i
      rw [List.mem_map]
      constructor
      · intro listed
        obtain ⟨⟨tx, _⟩, member, rfl⟩ := listed
        exact ⟨tx, mem_verified_iff.1 member⟩
      · intro parts
        obtain ⟨tx, found⟩ := parts
        exact ⟨(tx, i), mem_verified_iff.2 found, rfl⟩
    · intro j i listed
      rw [List.getElem?_map, Option.map_eq_some_iff] at listed
      obtain ⟨⟨tx, _⟩, found, rfl⟩ := listed
      refine ⟨tx, (mem_verified_iff.1 (List.mem_of_getElem? found)).1, ?_⟩
      rw [List.getElem?_map, found]
      rfl
  · intro results
    constructor
    · intro refused same
      obtain ⟨mismatch, refused⟩ := refused
      rw [filter_of_length_eq same.symm] at refused
      cases refused
    · intro differs
      exact ⟨_, filter_of_length_ne differs.symm⟩

/-! ## A batch of both kinds -/

/-- Vouches for drafts on the chain whose id is zero and for no others. -/
def zeroChainCredential : Credential where
  typeId := 7
  computeUnits := fun _ => 1
  validRange := fun _ => .always
  verify := fun draft =>
    if draft.header.chainId = Identifier.zero then .ok () else .error .invalidSignature
  actor := Address.zero
  sponsor := Address.zero
  size := 0
  fields := []

def idleTransaction (chainId : Identifier) (credential : Option Credential) : Transaction where
  header := ⟨0, chainId, 0⟩
  actions := []
  credential := credential

/-- An unsigned transaction, a valid one, one of another chain, and the valid one again. -/
def mixedBatch : List Transaction :=
  let valid := idleTransaction Identifier.zero (some zeroChainCredential)
  [idleTransaction Identifier.zero none, valid,
    idleTransaction (Identifier.ofHash (Octets.padRight 32) [1]) (some zeroChainCredential), valid]

/-- What fails before and between the valid ones moves them forward in what is kept, and each stays
beside its own place. The first three results are too few. -/
theorem mixed_batch_keeps_second_and_fourth : ∃ kept,
    filter mixedBatch (verify mixedBatch) = .ok (kept, [1, 3]) ∧ kept.length = 2 ∧
      kept[0]? = mixedBatch[1]? ∧ kept[1]? = mixedBatch[3]? ∧
      ∃ mismatch, filter mixedBatch ((verify mixedBatch).take 3) = .error mismatch := by
  obtain ⟨-, -, ⟨kept, places, filtered, counted, -, -, beside⟩, refused⟩ :=
    batch_keeps_what_verifies mixedBatch
  have placesEq : places = [1, 3] := by
    have computed : (filter mixedBatch (verify mixedBatch)).map Prod.snd = .ok [1, 3] := rfl
    rw [filtered] at computed
    exact Except.ok.inj computed
  subst placesEq
  obtain ⟨first, inBatch, firstKept⟩ := beside 0 1 rfl
  obtain ⟨second, alsoInBatch, secondKept⟩ := beside 1 3 rfl
  refine ⟨kept, filtered, counted, ?_, ?_, (refused _).mpr (by decide)⟩
  · rw [firstKept, inBatch]
  · rw [secondKept, alsoInBatch]

end SignedTx.Batch
