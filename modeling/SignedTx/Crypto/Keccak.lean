import SignedTx.Crypto.Hash

/-!
# Keccak-256

The sponge over 25 lanes of 64 bits with 136 octets absorbed at a time and 32 squeezed out, in the
variant whose padding starts with the octet 1. Lane `(x, y)` stands at place `x + 5 y`; octets fill
a lane from its least significant end.
-/

set_option autoImplicit false

namespace SignedTx.Keccak

abbrev State := Vector UInt64 25

/-- The lane at a column and a row, both taken modulo five. -/
def lane (s : State) (x y : Nat) : UInt64 := s.get ⟨x % 5 + 5 * (y % 5), by omega⟩

def rotateLeft (word : UInt64) (n : UInt64) : UInt64 := (word <<< n) ||| (word >>> (64 - n))

def ofLanes (f : (x y : Nat) → UInt64) : State := Vector.ofFn fun i => f (i.val % 5) (i.val / 5)

/-- Adds to each lane the parities of two neighbouring columns. -/
def theta (s : State) : State :=
  let parity := Vector.ofFn fun (x : Fin 5) =>
    lane s x 0 ^^^ lane s x 1 ^^^ lane s x 2 ^^^ lane s x 3 ^^^ lane s x 4
  let column (x : Nat) : UInt64 := parity.get ⟨x % 5, by omega⟩
  let change := Vector.ofFn fun (x : Fin 5) => column (x + 4) ^^^ rotateLeft (column (x + 1)) 1
  ofLanes fun x y => lane s x y ^^^ change.get ⟨x % 5, by omega⟩

/-- How far each lane turns. -/
def rotations : Vector UInt64 25 := #v[
  0, 1, 62, 28, 27,
  36, 44, 6, 55, 20,
  3, 10, 43, 25, 39,
  41, 45, 15, 21, 8,
  18, 2, 61, 56, 14]

/-- Turns each lane and moves lane `(x, y)` to `(y, 2 x + 3 y)`. -/
def rhoPi (s : State) : State :=
  ofLanes fun x y =>
    let source := x + 3 * y
    rotateLeft (lane s source x) (lane rotations source x)

/-- The only nonlinear step, along rows. -/
def chi (s : State) : State :=
  ofLanes fun x y => lane s x y ^^^ (~~~ lane s (x + 1) y &&& lane s (x + 2) y)

def roundConstants : List UInt64 := [
  0x0000000000000001, 0x0000000000008082, 0x800000000000808a, 0x8000000080008000,
  0x000000000000808b, 0x0000000080000001, 0x8000000080008081, 0x8000000000008009,
  0x000000000000008a, 0x0000000000000088, 0x0000000080008009, 0x000000008000000a,
  0x000000008000808b, 0x800000000000008b, 0x8000000000008089, 0x8000000000008003,
  0x8000000000008002, 0x8000000000000080, 0x000000000000800a, 0x800000008000000a,
  0x8000000080008081, 0x8000000000008080, 0x0000000080000001, 0x8000000080008008]

def round (s : State) (constant : UInt64) : State :=
  let s := chi (rhoPi (theta s))
  s.set 0 (s.get 0 ^^^ constant)

def permute (s : State) : State := roundConstants.foldl round s

def rate : Nat := 136

def laneOfOctets (bytes : List UInt8) : UInt64 :=
  (bytes.take 8).foldr (fun byte word => (word <<< 8) ||| byte.toUInt64) 0

def absorbBlock (s : State) (block : List UInt8) : State :=
  permute (Vector.ofFn fun i => s.get i ^^^ laneOfOctets (block.drop (8 * i.val)))

def absorb (s : State) (bytes : List UInt8) : State :=
  if _ : bytes.length < rate then s
  else absorb (absorbBlock s (bytes.take rate)) (bytes.drop rate)
termination_by bytes.length
decreasing_by
  have : 0 < rate := by decide
  simp only [List.length_drop]
  omega

/-- Fills the last block: the octet 1, zeros, and the top bit of the last octet. -/
def pad (message : List UInt8) : List UInt8 :=
  let missing := rate - message.length % rate
  if missing = 1 then message ++ [0x81]
  else message ++ 0x01 :: List.replicate (missing - 2) 0 ++ [0x80]

def octetsOfLane (word : UInt64) : List UInt8 := (beBytes 8 word.toNat).reverse

def keccak256 : HashFunction := fun message =>
  let s := absorb (Vector.replicate 25 0) (pad message)
  ⟨octetsOfLane (s.get 0) ++ octetsOfLane (s.get 1) ++ octetsOfLane (s.get 2) ++
    octetsOfLane (s.get 3), by simp [octetsOfLane]⟩

end SignedTx.Keccak
