import SignedTx.Identifier

/-!
# Rules of a chain

The bounds that a chain sets for transactions, and ranges of time in which something is active.
-/

set_option autoImplicit false

namespace SignedTx

structure Rules where
  chainId : Identifier
  /-- How far ahead of the present a timestamp may lie, in milliseconds. -/
  validityWindow : Int64 := 60000
  maxActions : Nat := 16
  baseUnits : UInt64 := 1
  maxSize : Nat := 2 * 1024 * 1024
deriving DecidableEq

/-- A range of timestamps with both ends included; a missing end is open. -/
structure ValidRange where
  first : Option Int64 := none
  last : Option Int64 := none
deriving DecidableEq, Repr

namespace ValidRange

def always : ValidRange := {}

def contains (range : ValidRange) (timestamp : Int64) : Bool :=
  range.first.all (fun first => decide (first ≤ timestamp)) &&
    range.last.all fun last => decide (timestamp ≤ last)

end ValidRange

def saturatingAdd64 (a b : Int64) : Int64 :=
  let sum := a.toInt + b.toInt
  if sum < Int64.minValue.toInt then Int64.minValue
  else if Int64.maxValue.toInt < sum then Int64.maxValue
  else Int64.ofInt sum

def saturatingAddUnits (a b : UInt64) : UInt64 :=
  UInt64.ofNat (min (UInt64.size - 1) (a.toNat + b.toNat))

end SignedTx
