import SignedTx.Crypto.Secp256k1
import SignedTx.Proofs.BigEndian

/-!
# Signing and recovery, step by step

What a key, a nonce and the points on the way give, as the steps of signing, recovery and
verification. Multiples and powers go through the bits of their numbers; the bits are read here from
the top, one test each, so that single signatures can be computed inside the logic. That what is
signed also verifies is shown for one signature, not in general; what recovery and verification ask
of a signature's numbers is shown for all.
-/

set_option autoImplicit false

namespace SignedTx.Secp256k1

/-! ## Bits -/

def topBits (value : Nat) : (count : Nat) → List Bool
  | 0 => []
  | count + 1 => value.testBit count :: topBits value count

theorem top_bits_succ (value count : Nat) :
    topBits value (count + 1) = topBits (value / 2) count ++ [decide (value % 2 = 1)] := by
  induction count with
  | zero => simp [topBits, Nat.testBit_zero]
  | succ count induction =>
      rw [topBits, induction, topBits, Nat.testBit_succ]
      rfl

theorem bits_from_eq (count value : Nat) : bitsFrom count value = topBits value count := by
  induction count generalizing value with
  | zero => rfl
  | succ count induction => rw [bitsFrom, induction, top_bits_succ]

/-! ## Serialized forms -/

theorem be_nat_of_word {n : Nat} (small : n < 2 ^ 256) : beNat (beBytes 32 n) = n := by
  have wide : n < 256 ^ 32 := by
    calc n < 2 ^ 256 := small
      _ = 256 ^ 32 := by decide
  rw [be_nat_be_bytes, Nat.mod_eq_of_lt wide]

theorem split_join {r s : Nat} (first : r < 2 ^ 256) (second : s < 2 ^ 256) :
    split (join r s) = (r, s) := by
  have octets : (join r s).toList = beBytes 32 r ++ beBytes 32 s := rfl
  rw [split, octets, List.take_left' (length_beBytes 32 r), List.drop_left' (length_beBytes 32 r),
    be_nat_of_word first, be_nat_of_word second]

namespace PublicKey

theorem below_field (key : PublicKey) : key.x < 2 ^ 256 ∧ key.y < 2 ^ 256 := by
  have checked := key.onCurve
  simp only [isOnCurve, Bool.and_eq_true, decide_eq_true_eq] at checked
  have field : fieldPrime < 2 ^ 256 := by decide
  exact ⟨checked.1.1.trans field, checked.1.2.trans field⟩

theorem of_coordinates_self (key : PublicKey) : ofCoordinates? key.x key.y = some key := by
  rw [ofCoordinates?, dif_pos key.onCurve]

/-- Every key is read back from its full form. -/
theorem parse_uncompressed (key : PublicKey) : parse? (uncompressed key).toList = some key := by
  obtain ⟨first, second⟩ := key.below_field
  have octets : (uncompressed key).toList = 4 :: (beBytes 32 key.x ++ beBytes 32 key.y) := rfl
  have length : (beBytes 32 key.x ++ beBytes 32 key.y).length = 64 := by simp
  rw [octets, parse?, if_neg (by rw [length]; decide), if_pos length,
    List.take_left' (length_beBytes 32 key.x), List.drop_left' (length_beBytes 32 key.x),
    be_nat_of_word first, be_nat_of_word second]
  exact key.of_coordinates_self

/-- A key is read back from its short form where the curve's equation gives it for its parity. -/
theorem parse_compressed {key : PublicKey} {odd : Bool} (parity : decide (key.y % 2 = 1) = odd)
    (lifted : ofParity? key.x odd = some key) : parse? (compressed key).toList = some key := by
  have octets : (compressed key).toList = UInt8.ofNat (2 + key.y % 2) :: beBytes 32 key.x := rfl
  rw [octets, parse?, if_pos (length_beBytes 32 key.x), be_nat_of_word key.below_field.1]
  cases odd with
  | false =>
      have even : key.y % 2 = 0 := by simpa using parity
      rw [even, if_pos (by decide)]
      exact lifted
  | true =>
      rw [of_decide_eq_true parity, if_neg (by decide), if_pos (by decide)]
      exact lifted

theorem parse_compressed_generator : parse? (compressed ofGenerator).toList = some ofGenerator := by
  apply parse_compressed rfl
  simp only [ofParity?, squareRoot?, power, bits256, bits_from_eq]
  decide +kernel

end PublicKey

/-! ## Steps

What a step gives is rewritten before the branches are chosen; else the checker would compute the
powers in them. -/

theorem sign_eq_some {hash : HashFunction} {key : SecretKey} {digest : Digest} {k x y s : Nat}
    (drawn : nonce? hash key digest = some k)
    (point : affine? (multiple k generator) = some (x, y)) (small : x < order)
    (scaled : inverse order k * ((digest.toNat + x * key.scalar) % order) % order = s)
    (positive : 0 < x ∧ 0 < s) (low : s ≤ lowBound) :
    sign? hash key digest = some (join x s, if y % 2 = 1 then 1 else 0) := by
  have reduced : x % order = x := Nat.mod_eq_of_lt small
  have unwrapped : ¬ order ≤ x := Nat.not_le_of_lt small
  have usable : ¬ (x = 0 ∨ s = 0) := by omega
  rw [sign?, drawn, Option.bind_eq_bind, Option.bind_some, point, Option.bind_eq_bind,
    Option.bind_some]
  simp only [reduced, scaled, usable, unwrapped, Nat.not_lt.mpr low, if_false]
  by_cases odd : y % 2 = 1 <;> simp [odd]

theorem recover_eq_some {digest : Digest} {signature : CompactSignature} {id : Fin 4}
    {r s x scale : Nat} {odd : Bool} {point key : PublicKey} (parts : split signature = (r, s))
    (ranged : inRange r s = true) (abscissa : (if id.val / 2 = 1 then r + order else r) = x)
    (parity : decide (id.val % 2 = 1) = odd)
    (lifted : PublicKey.ofParity? x odd = some point)
    (inverted : inverse order r = scale)
    (found : PublicKey.ofPoint? (combine
      ((order - digest.toNat % order * scale % order) % order) generator
      (s * scale % order) point.toPoint) = some key) :
    recover? digest signature id = some key := by
  rw [recover?, parts]
  simp only [ranged, abscissa, parity, inverted, Bool.not_true, Bool.false_eq_true, if_false]
  rw [lifted]
  exact found

theorem verify_eq_true {digest : Digest} {signature : CompactSignature} {key : PublicKey}
    {r s scale x y : Nat} (parts : split signature = (r, s)) (ranged : inRange r s = true)
    (low : s ≤ lowBound) (inverted : inverse order s = scale)
    (point : affine? (combine (digest.toNat % order * scale % order) generator
      (r * scale % order) key.toPoint) = some (x, y)) (same : x % order = r) :
    verify digest signature key = true := by
  rw [verify, parts]
  simp only [ranged, inverted, Nat.not_lt.mpr low, Bool.not_true, Bool.false_or, decide_false,
    Bool.false_eq_true, if_false]
  rw [point]
  exact decide_eq_true same

/-! ## What the numbers of a signature must be -/

/-- The two numbers are positive and below the order where a key is recovered, and the second is in
the lower half where the signature verifies. -/
structure ChecksNumbers (ecdsa : Ecdsa) : Prop where
  ranged : ∀ digest compact id key, ecdsa.recover? digest compact id = some key →
    inRange (split compact).1 (split compact).2 = true
  low : ∀ digest compact key, ecdsa.verify digest compact key = true →
    (split compact).2 ≤ lowBound

/-- A first coordinate that has the order added is still looked for below the field's prime. -/
def WrapsWithinField (ecdsa : Ecdsa) : Prop :=
  ∀ digest compact id key, ecdsa.recover? digest compact id = some key → id.val / 2 = 1 →
    (split compact).1 + order < fieldPrime

theorem in_range_of_recovered {digest : Digest} {signature : CompactSignature} {id : Fin 4}
    {r s : Nat} {key : PublicKey} (parts : split signature = (r, s))
    (recovered : recover? digest signature id = some key) : inRange r s = true := by
  cases ranged : inRange r s with
  | true => rfl
  | false =>
      rw [recover?, parts] at recovered
      simp only [ranged, Bool.not_false, if_true] at recovered
      cases recovered

theorem below_field_of_recovered {digest : Digest} {signature : CompactSignature} {id : Fin 4}
    {r s : Nat} {key : PublicKey} (parts : split signature = (r, s))
    (recovered : recover? digest signature id = some key) (wrapped : id.val / 2 = 1) :
    r + order < fieldPrime := by
  by_contra beyond
  have missing : ∀ odd, PublicKey.ofParity? (r + order) odd = none := by
    intro odd
    rw [PublicKey.ofParity?, if_neg beyond]
  have ranged := in_range_of_recovered parts recovered
  rw [recover?, parts] at recovered
  simp only [ranged, wrapped, missing, Bool.not_true, Bool.false_eq_true, if_true,
    if_false] at recovered
  cases recovered

theorem low_of_verified {digest : Digest} {signature : CompactSignature} {key : PublicKey}
    {r s : Nat} (parts : split signature = (r, s))
    (verified : verify digest signature key = true) : s ≤ lowBound := by
  rw [verify, parts] at verified
  by_cases refused : (!inRange r s || decide (lowBound < s)) = true
  · simp only [refused, if_true] at verified
    cases verified
  · rw [Bool.or_eq_true, not_or, decide_eq_true_eq] at refused
    exact Nat.le_of_not_lt refused.2

theorem checks_numbers (hash : HashFunction) : ChecksNumbers (ecdsa hash) := by
  -- The functions are taken out of the record first, else matching opens their arithmetic.
  have recovery : (ecdsa hash).recover? = recover? := rfl
  have verification : (ecdsa hash).verify = verify := rfl
  constructor
  · rw [recovery]
    intro digest compact id key recovered
    exact in_range_of_recovered rfl recovered
  · rw [verification]
    intro digest compact key verified
    exact low_of_verified rfl verified

theorem wraps_within_field (hash : HashFunction) : WrapsWithinField (ecdsa hash) := by
  have recovery : (ecdsa hash).recover? = recover? := rfl
  rw [WrapsWithinField, recovery]
  intro digest compact id key recovered wrapped
  exact below_field_of_recovered rfl recovered wrapped

/-! ## A signature by the secret key one -/

/-- A hash, as a number. -/
def sampleHash : Nat := 0x92f1cfeca82435838434519134af28e1d3e7f88e17a433cc313796ab6aced799

def sampleDigest : Digest := Octets.ofNat 32 sampleHash

/-- The secret number that the key one draws for the hash. -/
def sampleNonce : Nat := 0x90f3245b159a5e052a9614c16ed36db47f12562372b686c3352304a8e686a511

theorem sample_digest_to_nat : sampleDigest.toNat = sampleHash := by
  have small : sampleHash < 256 ^ 32 := by decide
  rw [sampleDigest, Octets.to_nat_of_nat, Nat.mod_eq_of_lt small]

theorem secret_of_one : SecretKey.ofOctets? (beBytes 32 1) = some ⟨1⟩ := by decide

theorem public_key_of_one : SecretKey.publicKey? ⟨1⟩ = some PublicKey.ofGenerator := by
  simp only [SecretKey.publicKey?, multiple, PublicKey.ofPoint?, affine?, inverse, power, combine,
    bits256, bits_from_eq]
  decide +kernel

theorem nonce_of_one : nonce? Sha256.sha256 ⟨1⟩ sampleDigest = some sampleNonce := by
  decide +kernel

/-- The generator, taken as often as the nonce says. -/
def noncePoint : PublicKey where
  x := 0x45990f08499f001e126a9c382da7586c74c6b84a69e053ee5cbe9a1119e3d291
  y := 0x3f360489452cb7d307d95aff287bbabbc723ba33505e0d058c7d25f60ca8a7d9
  onCurve := by decide +kernel

def sampleScalar : Nat := 0x29ee153cf3d9e975697662dda0d6716b3900f0225e9962b16e2b715ee43f575d

def sampleCompact : CompactSignature := join noncePoint.x sampleScalar

theorem sample_parts : split sampleCompact = (noncePoint.x, sampleScalar) :=
  split_join noncePoint.below_field.1 (by decide)

def nonceInverse : Nat := 0x075dea590c40369f3b5111b7b1b63093f5eb4d04ac36e18b208ea08be2d5a676

def abscissaInverse : Nat := 0x2872e53776d751b4a66e87e108f64ca13e48e61ca389150a327505f124b4cee4

def scalarInverse : Nat := 0xa3655aabbf6a347c1fba48b1cb605d5e224aea98c58c44a9da68d4a31ce06606

/-- What signing, recovery and verification multiply by. -/
theorem sample_inverses :
    inverse order sampleNonce = nonceInverse ∧ inverse order noncePoint.x = abscissaInverse ∧
      inverse order sampleScalar = scalarInverse := by
  simp only [inverse, power, bits256, bits_from_eq]
  decide +kernel

/-- The point that the nonce gives, the same from its first coordinate, and the key and the point
that recovery and verification end at. -/
theorem sample_points :
    affine? (multiple sampleNonce generator) = some (noncePoint.x, noncePoint.y) ∧
      PublicKey.ofParity? noncePoint.x true = some noncePoint ∧
      PublicKey.ofPoint? (combine
        ((order - sampleHash % order * abscissaInverse % order) % order) generator
        (sampleScalar * abscissaInverse % order) noncePoint.toPoint) =
          some PublicKey.ofGenerator ∧
      affine? (combine (sampleHash % order * scalarInverse % order) generator
        (noncePoint.x * scalarInverse % order) PublicKey.ofGenerator.toPoint) =
          some (noncePoint.x, noncePoint.y) := by
  simp only [PublicKey.ofParity?, squareRoot?, PublicKey.ofPoint?, affine?, multiple, combine,
    inverse, power, bits256, bits_from_eq]
  decide +kernel

theorem one_signs :
    sign? Sha256.sha256 ⟨1⟩ sampleDigest = some (sampleCompact, 1) := by
  obtain ⟨inverted, -⟩ := sample_inverses
  obtain ⟨point, -⟩ := sample_points
  have small : noncePoint.x < order := by decide
  have positive : 0 < noncePoint.x ∧ 0 < sampleScalar := by decide
  have low : sampleScalar ≤ lowBound := by decide
  apply sign_eq_some nonce_of_one point small ?_ positive low
  rw [inverted, sample_digest_to_nat]
  decide

theorem sample_recovered :
    recover? sampleDigest sampleCompact 1 = some PublicKey.ofGenerator := by
  obtain ⟨-, inverted, -⟩ := sample_inverses
  obtain ⟨-, lifted, found, -⟩ := sample_points
  apply recover_eq_some sample_parts (by decide) (if_neg (by decide)) (by decide) lifted inverted
  rw [sample_digest_to_nat]
  exact found

theorem sample_verifies : verify sampleDigest sampleCompact PublicKey.ofGenerator = true := by
  obtain ⟨-, -, inverted⟩ := sample_inverses
  obtain ⟨-, -, -, point⟩ := sample_points
  rw [← sample_digest_to_nat] at point
  exact verify_eq_true sample_parts (by decide) (by decide) inverted point (by decide)

/-! ## A signature whose point wraps around the order -/

/-- Two numbers that are as good as any others: for each hash, some key has made the signature. -/
def wrappedCompact : CompactSignature := join 2 2

/-- The point whose first coordinate is two modulo the order, but not two. -/
def wrappedPoint : PublicKey where
  x := 2 + order
  y := 0xc94e559d14883e68cfda34341568bf1127153254788dd974c6af9bb9cd962a5c
  onCurve := by decide +kernel

/-- The key that has made it for the hash above. -/
def wrappedKey : PublicKey where
  x := 0xe1bbfbad523b967e652904920efec0886b0f44650bf6763b6cfcbd505fffe5b6
  y := 0x44c37fe9058fd0e81b474520d4b9e37870696186adc6cf5917d6c29e4ff7b19b
  onCurve := by decide +kernel

theorem wrapped_parts : split wrappedCompact = (2, 2) := split_join (by decide) (by decide)

def inverseOfTwo : Nat := 0x7fffffffffffffffffffffffffffffff5d576e7357a4501ddfe92f46681b20a1

/-- The inverse, the point found again and what recovery and verification end at. -/
theorem wrapped_steps :
    inverse order 2 = inverseOfTwo ∧
      PublicKey.ofParity? (2 + order) false = some wrappedPoint ∧
      PublicKey.ofPoint? (combine
        ((order - sampleHash % order * inverseOfTwo % order) % order) generator
        (2 * inverseOfTwo % order) wrappedPoint.toPoint) = some wrappedKey ∧
      affine? (combine (sampleHash % order * inverseOfTwo % order) generator
        (2 * inverseOfTwo % order) wrappedKey.toPoint) =
          some (wrappedPoint.x, wrappedPoint.y) := by
  simp only [PublicKey.ofParity?, squareRoot?, PublicKey.ofPoint?, affine?, combine, inverse, power,
    bits256, bits_from_eq]
  decide +kernel

theorem wrapped_recovered : recover? sampleDigest wrappedCompact 2 = some wrappedKey := by
  obtain ⟨inverted, lifted, found, -⟩ := wrapped_steps
  apply recover_eq_some wrapped_parts (by decide) (if_pos (by decide)) (by decide) lifted inverted
  rw [sample_digest_to_nat]
  exact found

theorem wrapped_verifies : verify sampleDigest wrappedCompact wrappedKey = true := by
  obtain ⟨inverted, -, -, point⟩ := wrapped_steps
  rw [← sample_digest_to_nat] at point
  exact verify_eq_true wrapped_parts (by decide) (by decide) inverted point (by decide)

/-! ## The same of the standard library

The library is a record of the functions above; each is taken out of it before it is applied. -/

theorem standard_secret_of_one : Crypto.standard.ecdsa.secret? (beBytes 32 1) = some ⟨1⟩ := by
  have library : Crypto.standard.ecdsa.secret? = SecretKey.ofOctets? := rfl
  rw [library]
  exact secret_of_one

theorem standard_public_key_of_one :
    Crypto.standard.ecdsa.publicKey? ⟨1⟩ = some PublicKey.ofGenerator := by
  have library : Crypto.standard.ecdsa.publicKey? = SecretKey.publicKey? := by
    simp only [Crypto.standard, ecdsa]
  rw [library]
  exact public_key_of_one

theorem standard_signs :
    Crypto.standard.ecdsa.sign? ⟨1⟩ sampleDigest = some (sampleCompact, 1) := by
  have library : Crypto.standard.ecdsa.sign? = sign? Sha256.sha256 := rfl
  rw [library]
  exact one_signs

theorem standard_recovers :
    Crypto.standard.ecdsa.recover? sampleDigest sampleCompact 1 = some PublicKey.ofGenerator := by
  have library : Crypto.standard.ecdsa.recover? = recover? := rfl
  rw [library]
  exact sample_recovered

theorem standard_verifies :
    Crypto.standard.ecdsa.verify sampleDigest sampleCompact PublicKey.ofGenerator = true := by
  have library : Crypto.standard.ecdsa.verify = verify := rfl
  rw [library]
  exact sample_verifies

theorem standard_recovers_wrapped :
    Crypto.standard.ecdsa.recover? sampleDigest wrappedCompact 2 = some wrappedKey := by
  have library : Crypto.standard.ecdsa.recover? = recover? := rfl
  rw [library]
  exact wrapped_recovered

theorem standard_verifies_wrapped :
    Crypto.standard.ecdsa.verify sampleDigest wrappedCompact wrappedKey = true := by
  have library : Crypto.standard.ecdsa.verify = verify := rfl
  rw [library]
  exact wrapped_verifies

end SignedTx.Secp256k1
