import SimplexReplay.Proofs.DoubleOrder

/-!
# Whole numbers as doubles

Every natural number of 64 bits has a nearest double that is finite.  Rounding changes the exponent
of a number by a bounded amount only, so a number whose exponent and width are small stays far from
the exponent at which packing gives up and answers with an infinity.
-/

namespace SimplexReplay

namespace Double

open Float.Model

/-- A number or a zero whose mantissa and exponent are bounded. -/
def Within (width : Nat) (bound : Int) : UnpackedFloat → Prop
  | .zero _ => True
  | .finite _ mantissa exponent _ => mantissa.log2 ≤ width ∧ exponent ≤ bound
  | .infinity _ | .notANumber => False

theorem Within.isFinite {width : Nat} {bound : Int} {value : UnpackedFloat}
    (within : Within width bound value) : value.isFinite = true := by
  cases value with
  | infinity sign | notANumber => exact within.elim
  | zero sign | finite sign => rfl

theorem Within.mono {width otherWidth : Nat} {bound otherBound : Int} {value : UnpackedFloat}
    (within : Within width bound value) (widthLe : width ≤ otherWidth)
    (boundLe : bound ≤ otherBound) :
    Within otherWidth otherBound value := by
  cases value with
  | infinity sign | notANumber => exact within.elim
  | zero sign => trivial
  | finite sign => exact ⟨le_trans within.1 widthLe, le_trans within.2 boundLe⟩

theorem log2_le_of_lt {number width : Nat} (below : number < 2 ^ (width + 1)) :
    number.log2 ≤ width := by
  by_cases zero : number = 0
  · simp [zero]
  · exact Nat.lt_succ_iff.mp ((Nat.log2_lt zero).mpr below)

theorem log2_mul_le {first second firstWidth secondWidth : Nat}
    (firstNarrow : first.log2 ≤ firstWidth) (secondNarrow : second.log2 ≤ secondWidth) :
    (first * second).log2 ≤ firstWidth + secondWidth + 1 := by
  have firstBelow : first < 2 ^ (firstWidth + 1) :=
    lt_of_lt_of_le Nat.lt_log2_self (Nat.pow_le_pow_right two_pos (by omega))
  have secondBelow : second < 2 ^ (secondWidth + 1) :=
    lt_of_lt_of_le Nat.lt_log2_self (Nat.pow_le_pow_right two_pos (by omega))
  apply log2_le_of_lt
  calc
    first * second < 2 ^ (firstWidth + 1) * 2 ^ (secondWidth + 1) :=
      Nat.mul_lt_mul'' firstBelow secondBelow
    _ = 2 ^ (firstWidth + secondWidth + 1 + 1) := by ring

theorem targetExponent_eq (mantissa : Nat) (exponent : Int) :
    Format.binary64.targetExponent (totalExponent mantissa exponent) =
      max (mantissa.log2 + 1 + exponent - 53) (-1074) := rfl

theorem mantissa_shiftRight_le (extended : UnpackedFloat.ExtendedMantissa) (count : Nat) :
    (extended >>> count).mantissa ≤ extended.mantissa := by
  change (count.repeat UnpackedFloat.ExtendedMantissa.shiftRightOne extended).mantissa ≤ _
  induction count with
  | zero => exact le_refl _
  | succ count ih => exact le_trans (Nat.div_le_self ..) ih

theorem roundedMantissa_le (extended : UnpackedFloat.ExtendedMantissa) :
    extended.roundedMantissa ≤ extended.mantissa + 1 := by
  rw [UnpackedFloat.ExtendedMantissa.roundedMantissa]
  generalize extended.accuracy = accuracy
  fun_cases UnpackedFloat.Accuracy.roundToNearestEven extended.mantissa accuracy <;> omega

/-- A shift to the exponent that the format asks for narrows the mantissa, and raises the exponent
by no more than the width of the mantissa. -/
theorem shiftToTargetExponent_le {mantissa width : Nat} {exponent bound : Int}
    (accuracy : UnpackedFloat.Accuracy) (narrow : mantissa.log2 ≤ width)
    (low : exponent ≤ bound) (nonneg : 0 ≤ bound) :
    (UnpackedFloat.shiftToTargetExponent Format.binary64 mantissa exponent accuracy).1.mantissa ≤
        mantissa ∧
      (UnpackedFloat.shiftToTargetExponent Format.binary64 mantissa exponent accuracy).2 ≤
        bound + width := by
  constructor
  · refine le_trans (mantissa_shiftRight_le ..) ?_
    fun_cases UnpackedFloat.ExtendedMantissa.ofMantissaAndAccuracy mantissa accuracy <;>
      exact le_refl _
  · simp only [UnpackedFloat.shiftToTargetExponent, UnpackedFloat.shiftToExponent,
      targetExponent_eq]
    omega

theorem within_roundWithAccuracy {mantissa width : Nat} {exponent bound : Int}
    (sign : UnpackedFloat.Sign) (accuracy : UnpackedFloat.Accuracy)
    (narrow : mantissa.log2 ≤ width) (low : exponent ≤ bound) (nonneg : 0 ≤ bound) :
    Within (width + 1) (bound + 2 * width + 1)
      (UnpackedFloat.roundWithAccuracy Format.binary64 sign mantissa exponent accuracy) := by
  obtain ⟨firstNarrow, firstLow⟩ := shiftToTargetExponent_le accuracy narrow low nonneg
  rw [UnpackedFloat.roundWithAccuracy]
  generalize UnpackedFloat.shiftToTargetExponent Format.binary64 mantissa exponent accuracy = first
    at firstNarrow firstLow
  -- Rounding up adds one to the mantissa, and so at most one to its width.
  have roundedNarrow : first.1.roundedMantissa.log2 ≤ width + 1 := by
    have mantissaBelow : mantissa < 2 ^ (width + 1) :=
      lt_of_lt_of_le Nat.lt_log2_self (Nat.pow_le_pow_right two_pos (by omega))
    have rounded := roundedMantissa_le first.1
    exact log2_le_of_lt (by rw [pow_succ]; omega)
  obtain ⟨secondNarrow, secondLow⟩ :=
    shiftToTargetExponent_le .exact roundedNarrow firstLow (by omega)
  have lastBelow : first.1.roundedMantissa < 2 ^ (width + 1 + 1) :=
    lt_of_lt_of_le Nat.lt_log2_self (Nat.pow_le_pow_right two_pos (by omega))
  dsimp only
  split
  · trivial
  · exact ⟨log2_le_of_lt (lt_of_le_of_lt secondNarrow lastBelow), by push_cast at secondLow; omega⟩

theorem Within.mul {firstWidth secondWidth : Nat} {firstBound secondBound : Int}
    {first second : UnpackedFloat} (firstWithin : Within firstWidth firstBound first)
    (secondWithin : Within secondWidth secondBound second) (nonneg : 0 ≤ firstBound + secondBound) :
    Within (firstWidth + secondWidth + 2)
      (firstBound + secondBound + 2 * (firstWidth + secondWidth + 1) + 1)
      (UnpackedFloat.mul Format.binary64 first second) := by
  cases first with
  | infinity sign | notANumber => exact firstWithin.elim
  | zero sign =>
      cases second with
      | infinity sign | notANumber => exact secondWithin.elim
      | zero sign | finite sign => trivial
  | finite sign mantissa exponent positive =>
      cases second with
      | infinity sign | notANumber => exact secondWithin.elim
      | zero sign => trivial
      | finite other otherMantissa otherExponent otherPositive =>
          have product := log2_mul_le firstWithin.1 secondWithin.1
          have low : exponent + otherExponent ≤ firstBound + secondBound :=
            add_le_add firstWithin.2 secondWithin.2
          exact within_roundWithAccuracy _ .exact product low nonneg

theorem within_unpack {bits : BitVec Format.binary64.numBits} {bound : Int} (nonneg : 0 ≤ bound)
    (small : bound < 971) (low : (UnpackedFloat.unpackExponent bits).toNat ≤ bound + 1075) :
    Within 52 bound (UnpackedFloat.unpack Format.binary64 bits) := by
  have bias : (Format.binary64.exponentBias : Int) = 1023 := rfl
  have hidden : (Format.binary64.mantissaBitsWithoutImplicit : Int) = 52 := rfl
  have fraction (mantissa : BitVec 52) : mantissa.toNat.log2 ≤ 52 :=
    log2_le_of_lt (lt_trans mantissa.isLt (by norm_num))
  have full (mantissa : BitVec (1 + 52)) : mantissa.toNat.log2 ≤ 52 :=
    log2_le_of_lt mantissa.isLt
  fun_cases UnpackedFloat.unpack Format.binary64 bits with
  | case1 _ biased _ _ greatest | case2 _ biased greatest =>
      have ones : biased.toNat = 2047 := congrArg BitVec.toNat greatest
      have lowBits : biased.toNat ≤ bound + 1075 := low
      omega
  | case3 => trivial
  | case4 _ biased _ _ _ _ subnormal =>
      have zero : biased.toNat = 0 := congrArg BitVec.toNat subnormal
      exact ⟨fraction _, by omega⟩
  | case5 _ biased =>
      have lowBits : biased.toNat ≤ bound + 1075 := low
      exact ⟨full _, by omega⟩

/-- What is packed with a small exponent is unpacked with a small exponent. -/
theorem Within.unpack_pack {width : Nat} {bound : Int} {value : UnpackedFloat}
    (within : Within width bound value) (nonneg : 0 ≤ bound) (small : bound < 971) :
    Within 52 bound
      (UnpackedFloat.unpack Format.binary64 (UnpackedFloat.pack Format.binary64 value)) := by
  have bias : (Format.binary64.exponentBias : Int) = 1023 := rfl
  have hidden : (Format.binary64.mantissaBitsWithoutImplicit : Int) = 52 := rfl
  have greatest : 2 ^ Format.binary64.exponentBits = 2048 := rfl
  fun_cases UnpackedFloat.pack Format.binary64 value with
  | case1 | case2 => exact within.elim
  | case3 | case6 =>
      apply within_unpack nonneg small
      simp [UnpackedFloat.packedZero]
      omega
  | case4 sign mantissa exponent positive biased large =>
      have low := within.2
      omega
  | case5 sign mantissa exponent positive width biased fits =>
      have low := within.2
      apply within_unpack nonneg small
      rw [UnpackedFloat.unpackExponent_packComponents, BitVec.toNat_ofNat,
        Nat.mod_eq_of_lt (by omega)]
      omega

theorem within_ofNat {number width : Nat} (narrow : number.log2 ≤ width) :
    Within (width + 54) (2 * width + 107) (UnpackedFloat.ofNat Format.binary64 number) := by
  rw [UnpackedFloat.ofNat, UnpackedFloat.ofInt, UnpackedFloat.normalize]
  split
  · rename_i below
    rw [Int.compare_eq_lt] at below
    omega
  · trivial
  · rw [Int.toNat_natCast, UnpackedFloat.round, targetExponent_eq]
    -- The mantissa is widened to the 53 bits of the format at most.
    generalize shift : max ((number.log2 : Int) + 1 + 0 - 53) (-1074) = target
    have few : ((0 : Int) - target).toNat ≤ 52 := by omega
    simp only [UnpackedFloat.decreaseExponent]
    generalize ((0 : Int) - target).toNat = count at few
    have widened : (number <<< count).log2 ≤ width + 53 := by
      rw [Nat.shiftLeft_eq]
      exact log2_mul_le narrow (by rwa [Nat.log2_two_pow])
    have rounded := within_roundWithAccuracy .positive .exact widened
      (show (0 : Int) - count ≤ 0 by omega) le_rfl
    exact rounded.mono (by omega) (by push_cast; omega)

theorem within_scaled {number width : Nat} (narrow : number.log2 ≤ width)
    (positive : 0 < number <<< Format.binary64.mantissaBits) :
    Within (width + 54) 0 (.finite .positive (number <<< Format.binary64.mantissaBits)
      (-Format.binary64.mantissaBits) positive) := by
  refine ⟨?_, by decide⟩
  rw [Nat.shiftLeft_eq]
  exact log2_mul_le narrow (by rw [Nat.log2_two_pow]; rfl)

theorem within_unpackedScientific {number width : Nat} (narrow : number.log2 ≤ width) :
    Within (width + 56) (2 * width + 111)
      (UnpackedFloat.ofScientific Format.binary64 number 0) := by
  -- The zero is hidden, for otherwise the guards against huge powers are computed away.
  generalize hidden : (0 : Int) = exponent
  have power : (0 : Int) ≤ 2 ^ Format.binary64.exponentBits := by positivity
  have one (positive) : Within 0 0 (.finite .positive (10 ^ exponent.toNat) 0 positive) := by
    refine ⟨?_, le_rfl⟩
    rw [← hidden]
    decide
  unfold UnpackedFloat.ofScientific
  split_ifs with zero huge tiny nonneg
  · trivial
  · omega
  · omega
  · exact ((within_scaled narrow _).mul (one _) le_rfl).mono (by omega) (by push_cast; omega)
  · omega

theorem isFinite_ofScientific {number : Nat} (narrow : number.log2 ≤ 63) :
    (Float.ofScientific number false 0).isFinite = true := by
  by_cases small : number < 2 ^ 53 ∧ 0 ≤ 22
  · have word : number.toUInt64.toNat.log2 ≤ 63 := log2_le_of_lt number.toUInt64.toNat_lt
    have one : Within 52 0 (Float.exactlyRepresentablePowersOfTen[0]).toModel.unpack :=
      within_unpack le_rfl (by norm_num) (by decide +kernel)
    have whole := (within_ofNat word).unpack_pack (by norm_num) (by norm_num)
    rw [Float.ofScientific, dif_pos small]
    exact ((whole.mul one (by norm_num)).unpack_pack (by norm_num) (by norm_num)).isFinite
  · rw [Float.ofScientific, dif_neg small]
    exact ((within_unpackedScientific narrow).unpack_pack (by norm_num) (by norm_num)).isFinite

end Double

namespace Decimal

theorem leadingExponent_of_word {number : Nat} (word : number < 2 ^ 64) :
    -1 ≤ leadingExponent ⟨false, number, 0⟩ ∧ leadingExponent ⟨false, number, 0⟩ < 20 := by
  have short : (digits number).length ≤ 20 :=
    (Nat.length_toDigits_le_iff (by norm_num) (by norm_num)).mpr (by omega)
  simp only [leadingExponent]
  omega

/-- A natural number of 64 bits has a nearest double, and that is finite. -/
theorem exists_floatOfInt {number : Int} (nonneg : 0 ≤ number) (word : number < 2 ^ 64) :
    ∃ value, floatOfInt number = some value ∧ value.isFinite = true := by
  have natWord : number.natAbs < 2 ^ 64 := by omega
  have unsigned : decide (number < 0) = false := decide_eq_false (by omega)
  have finite : (nearestDouble ⟨decide (number < 0), number.natAbs, 0⟩).isFinite = true := by
    obtain ⟨notTiny, notHuge⟩ := leadingExponent_of_word natWord
    rw [unsigned, nearestDouble, if_neg Bool.false_ne_true]
    split_ifs
    · decide +kernel
    · omega
    · omega
    · exact Double.isFinite_ofScientific (Double.log2_le_of_lt natWord)
  exact ⟨_, if_pos finite, finite⟩

end Decimal

end SimplexReplay
