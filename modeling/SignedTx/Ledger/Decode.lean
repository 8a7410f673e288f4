import SignedTx.Ledger.Error
import SignedTx.Wire.Reader

/-!
# Decoders

A decoder moves a reader and gives a value or an error. It may go on after a fault of the reader,
whose reads then give zeros; `check` turns the latched fault into an error, and decoders place it
before they trust what they have read.
-/

set_option autoImplicit false

namespace SignedTx

/-- A step over a reader that can fail; the reader is kept either way. -/
def Decode (α : Type) := Wire.Reader → Except TxError α × Wire.Reader

namespace Decode

instance : Monad Decode where
  pure value := fun r => (.ok value, r)
  bind step next := fun r =>
    match step r with
    | (.ok value, r) => next value r
    | (.error e, r) => (.error e, r)

/-- A read that cannot fail by itself. -/
def read {α : Type} (step : Wire.Reader → α × Wire.Reader) : Decode α := fun r =>
  let (value, r) := step r
  (.ok value, r)

def fail {α : Type} (e : TxError) : Decode α := fun r => (.error e, r)

def check : Decode Unit := fun r =>
  match r.fault with
  | some e => (.error (.format e), r)
  | none => (.ok (), r)

def ofExcept {α : Type} (result : Except TxError α) : Decode α := fun r => (result, r)

def times {α : Type} (decoder : Decode α) : Nat → Decode (List α)
  | 0 => pure []
  | n + 1 => do
    let value ← decoder
    let values ← decoder.times n
    return value :: values

end Decode
end SignedTx
