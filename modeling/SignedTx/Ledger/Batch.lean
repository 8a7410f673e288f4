import SignedTx.Ledger.Transaction

/-!
# Batches

Transactions are verified one by one, each with its place in the batch. Filtering needs one result
for each transaction; another number of results is refused as a whole.
-/

set_option autoImplicit false

namespace SignedTx.Batch

/-- The outcome for the transaction at a place. -/
structure Verification where
  index : Nat
  result : Except TxError Unit

def verify (txs : List Transaction) : List Verification :=
  txs.zipIdx.map fun (tx, index) => ⟨index, tx.verify⟩

/-- The numbers of transactions and of results differ. -/
structure LengthMismatch where
  transactions : Nat
  results : Nat
deriving DecidableEq, Repr

def verified (txs : List Transaction) (results : List Verification) :
    List (Transaction × Nat) :=
  (txs.zip results).filterMap fun (tx, outcome) =>
    if outcome.result.isOk then some (tx, outcome.index) else none

def filter (txs : List Transaction) (results : List Verification) :
    Except LengthMismatch (List Transaction × List Nat) :=
  if txs.length = results.length then
    let kept := verified txs results
    .ok (kept.map Prod.fst, kept.map Prod.snd)
  else .error ⟨txs.length, results.length⟩

end SignedTx.Batch
