import SignedTx.Crypto.Ecdsa
import SignedTx.Crypto.Hmac
import SignedTx.Crypto.Keccak
import SignedTx.Crypto.Sha256

/-!
# The curve y² = x³ + 7

Arithmetic over the prime field in naturals, points in projective coordinates, and signatures. A
public key carries the check that it lies on the curve, so no other pair of coordinates can be
stored or serialized. The second number of a signature is kept in the lower half of its range:
signing brings it there and verification refuses the upper half.
-/

set_option autoImplicit false

namespace SignedTx.Secp256k1

/-- The field prime, 2²⁵⁶ - 2³² - 977. -/
def fieldPrime : Nat := 0xfffffffffffffffffffffffffffffffffffffffffffffffffffffffefffffc2f

def order : Nat := 0xfffffffffffffffffffffffffffffffebaaedce6af48a03bbfd25e8cd0364141

/-! ## Modular arithmetic -/

def bitsFrom : (count value : Nat) → List Bool
  | 0, _ => []
  | count + 1, value => bitsFrom count (value / 2) ++ [decide (value % 2 = 1)]

def bits256 (value : Nat) : List Bool := bitsFrom 256 value

/-- Powers by squaring; exponents are below 2²⁵⁶. -/
def power (modulus base exponent : Nat) : Nat :=
  (bits256 exponent).foldl
    (fun acc bit =>
      let square := acc * acc % modulus
      if bit then square * base % modulus else square)
    1

/-- The inverse modulo a prime, zero for zero. -/
def inverse (modulus value : Nat) : Nat := power modulus value (modulus - 2)

def mul (a b : Nat) : Nat := a * b % fieldPrime

def sub (a b : Nat) : Nat := (a + fieldPrime - b) % fieldPrime

def squareRoot? (value : Nat) : Option Nat :=
  let root := power fieldPrime value ((fieldPrime + 1) / 4)
  if mul root root = value then some root else none

/-- The right-hand side of the curve's equation. -/
def cubic (x : Nat) : Nat := (x * x % fieldPrime * x + 7) % fieldPrime

def isOnCurve (x y : Nat) : Bool :=
  decide (x < fieldPrime) && decide (y < fieldPrime) && decide (mul y y = cubic x)

/-! ## Points -/

/-- The affine point `(x / z², y / z³)`, or infinity if `z` is zero. -/
structure Point where
  (x y z : Nat)

def infinity : Point := ⟨1, 1, 0⟩

def generator : Point :=
  ⟨0x79be667ef9dcbbac55a06295ce870b07029bfcdb2dce28d959f2815b16f81798,
   0x483ada7726a3c4655da4fbfc0e1108a8fd17b448a68554199c47d08ffb10d4b8, 1⟩

def double (u : Point) : Point :=
  let a := mul u.x u.x
  let b := mul u.y u.y
  let c := mul b b
  let d := 2 * sub (sub (mul (u.x + b) (u.x + b)) a) c % fieldPrime
  let e := 3 * a
  let x := sub (mul e e) (2 * d % fieldPrime)
  ⟨x, sub (mul e (sub d x)) (8 * c % fieldPrime), mul (2 * u.y) u.z⟩

def add (u v : Point) : Point :=
  if u.z = 0 then v
  else if v.z = 0 then u
  else
    let uz := mul u.z u.z
    let vz := mul v.z v.z
    let ux := mul u.x vz
    let vx := mul v.x uz
    let uy := mul u.y (mul v.z vz)
    let vy := mul v.y (mul u.z uz)
    if ux = vx then if uy = vy then double u else infinity
    else
      let h := sub vx ux
      let r := sub vy uy
      let hh := mul h h
      let hhh := mul h hh
      let w := mul ux hh
      let x := sub (sub (mul r r) hhh) (2 * w % fieldPrime)
      ⟨x, sub (mul r (sub w x)) (mul uy hhh), mul (mul u.z v.z) h⟩

/-- The sum of two multiples, bit by bit from the top. -/
def combine (a : Nat) (u : Point) (b : Nat) (v : Point) : Point :=
  let both := add u v
  ((bits256 a).zip (bits256 b)).foldl
    (fun acc bits =>
      let twice := double acc
      match bits with
      | (true, true) => add twice both
      | (true, false) => add twice u
      | (false, true) => add twice v
      | (false, false) => twice)
    infinity

def multiple (a : Nat) (u : Point) : Point := combine a u 0 infinity

def affine? (u : Point) : Option (Nat × Nat) :=
  if u.z = 0 then none
  else
    let z := inverse fieldPrime u.z
    let zz := mul z z
    some (mul u.x zz, mul u.y (mul z zz))

/-! ## Keys -/

structure PublicKey where
  x : Nat
  y : Nat
  onCurve : isOnCurve x y = true
deriving DecidableEq

namespace PublicKey

def ofCoordinates? (x y : Nat) : Option PublicKey :=
  if h : isOnCurve x y = true then some ⟨x, y, h⟩ else none

def ofPoint? (u : Point) : Option PublicKey := (affine? u).bind fun (x, y) => ofCoordinates? x y

def toPoint (key : PublicKey) : Point := ⟨key.x, key.y, 1⟩

theorem generator_is_on_curve : isOnCurve generator.x generator.y = true := by decide +kernel

def ofGenerator : PublicKey := ⟨generator.x, generator.y, generator_is_on_curve⟩

/-- The tag 2 or 3 for the parity of `y`, and `x`. -/
def compressed (key : PublicKey) : Octets 33 :=
  ⟨UInt8.ofNat (2 + key.y % 2) :: beBytes 32 key.x, by simp⟩

/-- The tag 4, `x` and `y`. -/
def uncompressed (key : PublicKey) : Octets 65 :=
  ⟨4 :: (beBytes 32 key.x ++ beBytes 32 key.y), by simp⟩

def ofParity? (x : Nat) (odd : Bool) : Option PublicKey :=
  if x < fieldPrime then
    match squareRoot? (cubic x) with
    | some root =>
      let y := if decide (root % 2 = 1) = odd then root else sub 0 root
      ofCoordinates? x y
    | none => none
  else none

/--
Reads 33 octets with tag 2 or 3, or 65 octets with tag 4, or 65 octets whose tag 6 or 7 repeats the
parity of `y`.
-/
def parse? : List UInt8 → Option PublicKey
  | [] => none
  | tag :: rest =>
    if rest.length = 32 then
      if tag = 2 then ofParity? (beNat rest) false
      else if tag = 3 then ofParity? (beNat rest) true
      else none
    else if rest.length = 64 then
      let x := beNat (rest.take 32)
      let y := beNat (rest.drop 32)
      if tag = 4 ∨ (tag = 6 ∧ y % 2 = 0) ∨ (tag = 7 ∧ y % 2 = 1) then ofCoordinates? x y else none
    else none

end PublicKey

/-- A number from 1 below the order. -/
structure SecretKey where
  scalar : Nat
deriving DecidableEq

namespace SecretKey

/-- Reads 24 to 32 octets, shorter ones as if led by zeros. -/
def ofOctets? (bytes : List UInt8) : Option SecretKey :=
  let scalar := beNat bytes
  if 24 ≤ bytes.length ∧ bytes.length ≤ 32 ∧ 0 < scalar ∧ scalar < order then some ⟨scalar⟩
  else none

def publicKey? (key : SecretKey) : Option PublicKey :=
  PublicKey.ofPoint? (multiple key.scalar generator)

end SecretKey

/-! ## Signatures -/

def split (signature : CompactSignature) : Nat × Nat :=
  (beNat (signature.toList.take 32), beNat (signature.toList.drop 32))

def join (r s : Nat) : CompactSignature := ⟨beBytes 32 r ++ beBytes 32 s, by simp⟩

/-- The largest `s` that verifies. -/
def lowBound : Nat := order / 2

/-- The secret number for a key and a hash; the hash enters as it is, not modulo the order. -/
def nonce? (hash : HashFunction) (key : SecretKey) (digest : Digest) : Option Nat :=
  let seed := beBytes 32 key.scalar ++ digest.toList
  let accept (candidate : List UInt8) : Option Nat :=
    let k := beNat candidate
    if 0 < k ∧ k < order then some k else none
  (Hmac.Generator.ofSeed hash seed).draw? hash accept 64

def sign? (hash : HashFunction) (key : SecretKey) (digest : Digest) :
    Option (CompactSignature × Fin 4) := do
  let k ← nonce? hash key digest
  let (x, y) ← affine? (multiple k generator)
  let r := x % order
  let s := inverse order k * ((digest.toNat + r * key.scalar) % order) % order
  if r = 0 ∨ s = 0 then none
  else
    let odd := decide (y % 2 = 1)
    let wrapped := decide (order ≤ x)
    let id (odd : Bool) : Fin 4 := ⟨odd.toNat + 2 * wrapped.toNat, by
      cases odd <;> cases wrapped <;> decide⟩
    if lowBound < s then some (join r (order - s), id (!odd)) else some (join r s, id odd)

def inRange (r s : Nat) : Bool :=
  decide (0 < r) && decide (r < order) && decide (0 < s) && decide (s < order)

def recover? (digest : Digest) (signature : CompactSignature) (id : Fin 4) : Option PublicKey :=
  let (r, s) := split signature
  if !inRange r s then none
  else
    let x := if id.val / 2 = 1 then r + order else r
    match PublicKey.ofParity? x (decide (id.val % 2 = 1)) with
    | none => none
    | some point =>
      let inverseR := inverse order r
      let z := digest.toNat % order
      let a := (order - z * inverseR % order) % order
      PublicKey.ofPoint? (combine a generator (s * inverseR % order) point.toPoint)

def verify (digest : Digest) (signature : CompactSignature) (key : PublicKey) : Bool :=
  let (r, s) := split signature
  if !inRange r s || decide (lowBound < s) then false
  else
    let inverseS := inverse order s
    let z := digest.toNat % order
    match affine? (combine (z * inverseS % order) generator (r * inverseS % order) key.toPoint) with
    | none => false
    | some (x, _) => decide (x % order = r)

def ecdsa (hash : HashFunction) : Ecdsa where
  PublicKey := PublicKey
  SecretKey := SecretKey
  decEq := inferInstance
  compressed := PublicKey.compressed
  uncompressed := PublicKey.uncompressed
  parse? := PublicKey.parse?
  secret? := SecretKey.ofOctets?
  publicKey? := SecretKey.publicKey?
  sign? := sign? hash
  recover? := recover?
  verify := verify

end SignedTx.Secp256k1

namespace SignedTx

def Crypto.standard : Crypto where
  keccak := Keccak.keccak256
  sha := Sha256.sha256
  ecdsa := Secp256k1.ecdsa Sha256.sha256

end SignedTx
