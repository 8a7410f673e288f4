import SignedTx.Ledger.Decode
import SignedTx.Ledger.Rules

/-!
# Transaction headers

A header names the last moment at which its transaction counts, the chain, and the most that may be
paid. It is 48 octets on the wire.
-/

set_option autoImplicit false

namespace SignedTx

structure Header where
  /-- Milliseconds since the epoch, in whole seconds where valid. -/
  timestamp : Int64
  chainId : Identifier
  maxFee : UInt64
deriving DecidableEq

namespace Header

def size : Nat := 48

def fields (header : Header) : List Wire.Field :=
  [.int64 header.timestamp, .id header.chainId, .uint64 header.maxFee]

def decode : Decode Header := do
  let timestamp ← Decode.read Wire.Reader.int64
  let chainId ← Decode.read Wire.Reader.id
  let maxFee ← Decode.read Wire.Reader.uint64
  Decode.check
  return ⟨timestamp, chainId, maxFee⟩

/-- Whole seconds, not yet past, not beyond the window, and the right chain, in this order. -/
def validate (header : Header) (rules : Rules) (now : Int64) : Except TxError Unit :=
  let timestamp := header.timestamp
  let latest := saturatingAdd64 now rules.validityWindow
  if timestamp % 1000 ≠ 0 then .error (.misalignedTimestamp timestamp)
  else if timestamp < now then .error (.expired timestamp now)
  else if latest < timestamp then .error (.timestampTooFar timestamp latest)
  else if header.chainId ≠ rules.chainId then .error .chainIdMismatch
  else .ok ()

end Header
end SignedTx
