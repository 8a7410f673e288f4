import SignedTx.Text.Bech32

/-!
# The checksum meets its target

One step of the remainder is linear in remainder and symbol together, so what six symbols add to a
remainder is their own remainder from zero. Six symbols from zero are their thirty bits in order:
nothing is shifted out. So the six symbols of a checksum bring the remainder to the target, whatever
stands before them, and no other six symbols do.
-/

set_option autoImplicit false

namespace SignedTx.Bech32

/-! ## Linearity -/

theorem contribution_xor (left right : Bool) (generator : BitVec 30) :
    (if (left ^^ right) = true then generator else 0) =
      (if left = true then generator else 0) ^^^ (if right = true then generator else 0) := by
  cases left <;> cases right <;> simp

theorem feedback_xor (left right : Symbol) :
    feedback (left ^^^ right) = feedback left ^^^ feedback right := by
  simp only [feedback, BitVec.getLsbD_xor, contribution_xor]
  ac_rfl

theorem shift_in_xor (left right : BitVec 30) (symbol other : Symbol) :
    shiftIn (left ^^^ right) (symbol ^^^ other) = shiftIn left symbol ^^^ shiftIn right other := by
  simp only [shiftIn, BitVec.shiftLeft_xor_distrib, BitVec.ushiftRight_xor_distrib,
    BitVec.setWidth_xor, feedback_xor]
  ac_rfl

/-- The remainder after symbols is that after as many zeros, changed by their remainder from zero. -/
theorem foldl_shift_in (remainder start : BitVec 30) (symbols : List Symbol) :
    symbols.foldl shiftIn (remainder ^^^ start) =
      (List.replicate symbols.length 0).foldl shiftIn remainder ^^^
        symbols.foldl shiftIn start := by
  induction symbols generalizing remainder start with
  | nil => rfl
  | cons symbol rest induction =>
      have step : shiftIn (remainder ^^^ start) symbol =
          shiftIn remainder 0 ^^^ shiftIn start symbol := by
        rw [← shift_in_xor, BitVec.ofNat_eq_ofNat, BitVec.zero_xor]
      rw [List.foldl_cons, step, induction, List.length_cons, List.replicate_succ,
        List.foldl_cons, List.foldl_cons]

/-! ## Six symbols -/

/-- A symbol taken from thirty bits, shifted in behind those above it. -/
theorem shift_in_next (value : BitVec 30) (place : Nat) :
    shiftIn (value >>> (5 * (place + 1))) ((value >>> (5 * place)).setWidth 5) =
      value >>> (5 * place) := by
  have shiftedOut : ((value >>> (5 * (place + 1))) >>> 25).setWidth 5 = (0 : Symbol) := by
    rw [← BitVec.shiftRight_add, BitVec.ushiftRight_eq_zero (by omega)]
    rfl
  have no_feedback : feedback 0 = 0#30 := by decide
  rw [shiftIn, shiftedOut, no_feedback, BitVec.xor_zero]
  apply BitVec.eq_of_getLsbD_eq
  intro i inside
  by_cases low : i < 5
  · simp [inside, low]
  · have back : 5 * (place + 1) + (i - 5) = 5 * place + i := by omega
    simp [inside, low, back]

theorem foldl_shift_in_places (value : BitVec 30) :
    ([5, 4, 3, 2, 1, 0].map fun place => (value >>> (5 * place)).setWidth 5).foldl shiftIn 0 =
      value := by
  have start : (0 : BitVec 30) = value >>> (5 * (5 + 1)) :=
    (BitVec.ushiftRight_eq_zero (by decide)).symm
  rw [start]
  simp only [List.map_cons, List.map_nil, List.foldl_cons, List.foldl_nil, shift_in_next]
  exact BitVec.ushiftRight_zero value

theorem polymod_append (front back : List Symbol) :
    polymod (front ++ back) = back.foldl shiftIn (polymod front) :=
  List.foldl_append

theorem polymod_append_xor (front back : List Symbol) :
    polymod (front ++ back) =
      (List.replicate back.length 0).foldl shiftIn (polymod front) ^^^ back.foldl shiftIn 0 := by
  have added := foldl_shift_in (polymod front) 0#30 back
  rwa [BitVec.xor_zero, ← polymod_append] at added

theorem length_checksum (variant : Variant) (hrp : List UInt8) (data : List Symbol) :
    (checksum variant hrp data).length = 6 := rfl

theorem polymod_checksum (variant : Variant) (hrp : List UInt8) (data : List Symbol) :
    polymod (expand hrp ++ (data ++ checksum variant hrp data)) = variant.target := by
  have alone : (checksum variant hrp data).foldl shiftIn 0 =
      polymod (expand hrp ++ data ++ List.replicate 6 0) ^^^ variant.target :=
    foldl_shift_in_places _
  calc
    polymod (expand hrp ++ (data ++ checksum variant hrp data)) =
        polymod (expand hrp ++ data ++ List.replicate 6 0) ^^^
          (checksum variant hrp data).foldl shiftIn 0 := by
      rw [← List.append_assoc, polymod_append_xor, length_checksum, ← polymod_append]
    _ = polymod (expand hrp ++ data ++ List.replicate 6 0) ^^^
          (polymod (expand hrp ++ data ++ List.replicate 6 0) ^^^ variant.target) := by rw [alone]
    _ = variant.target := by
      rw [← BitVec.xor_assoc, BitVec.xor_self, BitVec.zero_xor]

theorem variant_of_checksum (variant : Variant) (hrp : List UInt8) (data : List Symbol) :
    variantOf hrp (data ++ checksum variant hrp data) = some variant := by
  rw [variantOf, polymod_checksum]
  cases variant <;> rfl

/-! ## No other six symbols -/

/-- Any six symbols are the places of some thirty bits. -/
theorem places_of_six {symbols : List Symbol} (six : symbols.length = 6) :
    ∃ value : BitVec 30,
      ([5, 4, 3, 2, 1, 0].map fun place => (value >>> (5 * place)).setWidth 5) = symbols := by
  have place_of_number (number place : Nat) :
      ((BitVec.ofNat 30 number >>> (5 * place)).setWidth 5).toNat =
        number % 2 ^ 30 / 2 ^ (5 * place) % 2 ^ 5 := by
    rw [BitVec.toNat_setWidth, BitVec.toNat_ushiftRight, BitVec.toNat_ofNat,
      Nat.shiftRight_eq_div_pow]
  match symbols, six with
  | [a, b, c, d, e, f], _ =>
      have firstSmall := a.isLt
      have secondSmall := b.isLt
      have thirdSmall := c.isLt
      have fourthSmall := d.isLt
      have fifthSmall := e.isLt
      have sixthSmall := f.isLt
      refine ⟨BitVec.ofNat 30 (((((a.toNat * 32 + b.toNat) * 32 + c.toNat) * 32 + d.toNat) * 32 +
        e.toNat) * 32 + f.toNat), ?_⟩
      simp only [List.map_cons, List.map_nil, List.cons.injEq, and_true, ← BitVec.toNat_inj,
        place_of_number]
      omega

theorem foldl_shift_in_injective {left right : List Symbol} (six : left.length = 6)
    (otherSix : right.length = 6)
    (same : left.foldl shiftIn 0 = right.foldl shiftIn 0) : left = right := by
  obtain ⟨value, rfl⟩ := places_of_six six
  obtain ⟨other, rfl⟩ := places_of_six otherSix
  rw [foldl_shift_in_places, foldl_shift_in_places] at same
  rw [same]

theorem polymod_of_variant {variant : Variant} {hrp : List UInt8} {symbols : List Symbol}
    (met : variantOf hrp symbols = some variant) :
    polymod (expand hrp ++ symbols) = variant.target := by
  simp only [variantOf] at met
  split at met
  · cases met
    assumption
  split at met
  · cases met
    assumption
  · cases met

theorem variant_of_eq_some_iff {variant : Variant} {hrp : List UInt8} {data sum : List Symbol}
    (six : sum.length = 6) :
    variantOf hrp (data ++ sum) = some variant ↔ sum = checksum variant hrp data := by
  constructor
  · intro met
    -- Both bring the same remainder to the same target, so they are the same from zero.
    have length := length_checksum variant hrp data
    have same := (polymod_of_variant met).trans (polymod_checksum variant hrp data).symm
    rw [← List.append_assoc, ← List.append_assoc, polymod_append_xor _ sum,
      polymod_append_xor _ (checksum variant hrp data), six, length, BitVec.xor_right_inj] at same
    exact foldl_shift_in_injective six length same
  · intro same
    rw [same, variant_of_checksum]

end SignedTx.Bech32
