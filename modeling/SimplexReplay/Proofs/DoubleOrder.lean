import Mathlib.Data.Prod.Lex
import SimplexReplay.Proofs.AboveZero
import SimplexReplay.Proofs.LeastMember

/-!
# The order of doubles

Doubles that are not undefined are ordered as their heights: by the side of zero first, the two
infinities outermost, then by exponent and mantissa.  Both zeros have one height.  So the
comparisons of doubles are those of a linear order, with one value left out, and the least member
of a list of doubles is found as in any other order.  The size of a double that is not undefined is
not undefined either.  A quotient of finite doubles with a divisor above zero is never undefined,
but it can lie beyond the finite doubles on either side.
-/

namespace SimplexReplay.Double

open Float.Model

/-- The place of an unpacked double among all others, unless it is undefined. -/
def height : UnpackedFloat → Option (ℤ ×ₗ ℤ ×ₗ ℤ)
  | .notANumber => none
  | .infinity .negative => some (toLex (-2, toLex (0, 0)))
  | .finite .negative mantissa exponent _ => some (toLex (-1, toLex (-exponent, -mantissa)))
  | .zero _ => some (toLex (0, toLex (0, 0)))
  | .finite .positive mantissa exponent _ => some (toLex (1, toLex (exponent, mantissa)))
  | .infinity .positive => some (toLex (2, toLex (0, 0)))

theorem compare_eq_lt_iff {first second : UnpackedFloat} :
    first.compare second = some .lt ↔
      ∃ low ∈ height first, ∃ high ∈ height second, low < high := by
  cases first with
  | notANumber => simp [UnpackedFloat.compare, height]
  | zero sign =>
      cases second with
      | notANumber | zero other => simp [UnpackedFloat.compare, height]
      | infinity other | finite other =>
          cases other <;> simp [UnpackedFloat.compare, height, Prod.Lex.toLex_lt_toLex]
  | infinity sign =>
      cases second with
      | notANumber => simp [UnpackedFloat.compare, height]
      | zero other | finite other =>
          cases sign <;> cases other <;>
            simp [UnpackedFloat.compare, height, Prod.Lex.toLex_lt_toLex]
      | infinity other =>
          cases sign <;> cases other <;>
            simp [UnpackedFloat.compare, height, Prod.Lex.toLex_lt_toLex, compare]
  | finite sign mantissa exponent positive =>
      cases second with
      | notANumber => simp [UnpackedFloat.compare, height]
      | zero other | infinity other =>
          cases sign <;> cases other <;>
            simp [UnpackedFloat.compare, height, Prod.Lex.toLex_lt_toLex]
      | finite other =>
          -- On one side of zero the order is lexicographic, upside down below zero.
          cases sign <;> cases other <;>
            simp [UnpackedFloat.compare, height, Prod.Lex.toLex_lt_toLex, Ordering.then_eq_lt,
              Ordering.then_eq_gt, compare_lt_iff_lt, compare_gt_iff_gt]

theorem height_eq_of_beq {first second : UnpackedFloat} (equal : first.beq second = true) :
    height first = height second := by
  obtain ⟨-, -, same | zeros | zeros⟩ :=
    (UnpackedFloat.beq_iff_ne_notANumber_and_eq first second).mp equal
  · rw [same]
  all_goals rw [zeros.1, zeros.2, height, height]

theorem height_eq_none_iff {value : UnpackedFloat} : height value = none ↔ value.isNaN = true := by
  cases value with
  | notANumber | zero sign => simp [height, UnpackedFloat.isNaN]
  | infinity sign | finite sign => cases sign <;> simp [height, UnpackedFloat.isNaN]

theorem lt_iff_height {first second : Float} :
    first < second ↔ ∃ low ∈ height first.toModel.unpack, ∃ high ∈ height second.toModel.unpack,
      low < high := by
  rw [← compare_eq_lt_iff, ← beq_iff_eq]
  exact decide_eq_true_iff

theorem exists_height {value : Float} (ordinary : value.isNaN = false) :
    ∃ place, height value.toModel.unpack = some place := by
  apply Option.ne_none_iff_exists'.mp
  intro undefined
  have isUndefined : value.isNaN = true := height_eq_none_iff.mp undefined
  rw [ordinary] at isUndefined
  contradiction

instance : Scalar.Ordered Float where
  lt_asymm := by
    intro first second less greater
    obtain ⟨low, lowEq, high, highEq, lowLt⟩ := lt_iff_height.mp less
    obtain ⟨other, otherEq, another, anotherEq, otherLt⟩ := lt_iff_height.mp greater
    obtain rfl := Option.mem_unique lowEq anotherEq
    obtain rfl := Option.mem_unique highEq otherEq
    exact lt_asymm lowLt otherLt
  not_lt_trans := by
    intro first second third ordinary notFirst notSecond less
    obtain ⟨low, lowEq, high, highEq, lowLt⟩ := lt_iff_height.mp less
    obtain ⟨middle, middleEq⟩ := exists_height ordinary
    -- The middle height lies at most at the lower and at least at the higher end.
    have middleLe : middle ≤ low := by
      by_contra above
      exact notFirst (lt_iff_height.mpr ⟨low, lowEq, middle, middleEq, not_le.mp above⟩)
    have leMiddle : high ≤ middle := by
      by_contra below
      exact notSecond (lt_iff_height.mpr ⟨middle, middleEq, high, highEq, not_le.mp below⟩)
    exact absurd lowLt (not_lt.mpr (le_trans leMiddle middleLe))
  beq_of_lt := by
    intro first second less
    apply Bool.eq_false_iff.mpr
    intro equal
    obtain ⟨low, lowEq, high, highEq, lowLt⟩ := lt_iff_height.mp less
    have same := height_eq_of_beq (show second.toModel.unpack.beq first.toModel.unpack = true from
      equal)
    rw [same] at highEq
    exact absurd lowLt (Option.mem_unique lowEq highEq ▸ lt_irrefl low)

theorem compare_swap (first second : UnpackedFloat) :
    second.compare first = (first.compare second).map Ordering.swap := by
  have signs (one other : UnpackedFloat.Sign) : compare other one = (compare one other).swap := by
    cases one <;> cases other <;> rfl
  cases first with
  | notANumber => cases second <;> rfl
  | zero sign =>
      cases second with
      | notANumber | zero other => rfl
      | infinity other | finite other => cases other <;> rfl
  | infinity sign =>
      cases second with
      | notANumber => rfl
      | zero other | finite other => cases sign <;> cases other <;> rfl
      | infinity other => exact congrArg some (signs sign other)
  | finite sign mantissa exponent =>
      cases second with
      | notANumber => rfl
      | zero other | infinity other => cases sign <;> cases other <;> rfl
      | finite other otherMantissa otherExponent =>
          have fields : (compare otherExponent exponent).then (compare otherMantissa mantissa) =
              ((compare exponent otherExponent).then (compare mantissa otherMantissa)).swap := by
            rw [Ordering.swap_then, Int.compare_swap, Nat.compare_swap]
          cases sign <;> cases other <;> simp [UnpackedFloat.compare, fields]

theorem compare_ne_none {first second : UnpackedFloat} (firstOrdinary : first.isNaN = false)
    (secondOrdinary : second.isNaN = false) : first.compare second ≠ none := by
  cases first with
  | notANumber => simp [UnpackedFloat.isNaN] at firstOrdinary
  | zero sign | infinity sign | finite sign =>
      cases second with
      | notANumber => simp [UnpackedFloat.isNaN] at secondOrdinary
      | zero other | infinity other | finite other =>
          cases sign <;> cases other <;> simp [UnpackedFloat.compare]

/-- Of two doubles that are not undefined, one is less than the other or at least as great. -/
theorem not_lt_iff_le {first second : Float} (firstOrdinary : first.isNaN = false)
    (secondOrdinary : second.isNaN = false) : ¬first < second ↔ second ≤ first := by
  obtain ⟨order, compared⟩ :=
    Option.ne_none_iff_exists'.mp (compare_ne_none firstOrdinary secondOrdinary)
  have less : first < second ↔ order = .lt := by
    change decide (first.toModel.unpack.lt second.toModel.unpack = true) = true ↔ _
    rw [UnpackedFloat.lt, compared, decide_eq_true_iff, beq_iff_eq, Option.some_inj]
  have lessOrEqual : second ≤ first ↔ order ≠ .lt := by
    change decide (second.toModel.unpack.le first.toModel.unpack = true) = true ↔ _
    rw [UnpackedFloat.le, compare_swap, compared, decide_eq_true_iff]
    cases order <;> simp
  rw [less, lessOrEqual]

theorem isNaN_of_zero_le {value : Float} (nonneg : 0.0 ≤ value) : value.isNaN = false := by
  have sided := zero_le_iff.mp nonneg
  change value.toModel.unpack.isNaN = false
  cases unpacked : value.toModel.unpack with
  | notANumber => simp [unpacked, side] at sided
  | zero sign | infinity sign | finite sign => rfl

theorem fields_of_isNaN_unpack {format : Format} {bits : BitVec format.numBits}
    (undefined : (UnpackedFloat.unpack format bits).isNaN = true) :
    UnpackedFloat.unpackExponent bits = BitVec.allOnes format.exponentBits ∧
      UnpackedFloat.unpackMantissa bits ≠ 0 := by
  rw [← BitVec.neg_one_eq_allOnes]
  revert undefined
  fun_cases UnpackedFloat.unpack format bits <;> simp_all +zetaDelta [UnpackedFloat.isNaN]

theorem ofNat_ne_allOnes {width number : Nat} (fits : number + 1 < 2 ^ width) :
    BitVec.ofNat width number ≠ BitVec.allOnes width := by
  intro same
  have values := congrArg BitVec.toNat same
  rw [BitVec.toNat_allOnes, BitVec.toNat_ofNat, Nat.mod_eq_of_lt (by omega)] at values
  omega

/-- A number that is packed comes back as a number or an infinity. -/
theorem isNaN_unpack_pack {format : Format} {value : UnpackedFloat}
    (ordinary : value.isNaN = false) :
    (UnpackedFloat.unpack format (UnpackedFloat.pack format value)).isNaN = false := by
  have oneBelow : 0 + 1 < 2 ^ format.exponentBits := Nat.one_lt_two_pow (Nat.ne_of_gt format.he)
  apply Bool.eq_false_iff.mpr
  intro undefined
  obtain ⟨exponentEq, mantissaNe⟩ := fields_of_isNaN_unpack undefined
  revert exponentEq mantissaNe
  -- An infinity has the mantissa zero, everything else an exponent below the greatest one.
  fun_cases UnpackedFloat.pack format value with
  | case1 => simp [UnpackedFloat.isNaN] at ordinary
  | case2 sign | case4 sign =>
      intro _ mantissaNe
      exact absurd UnpackedFloat.unpackMantissa_packComponents mantissaNe
  | case3 sign | case6 sign =>
      intro exponentEq _
      exact ofNat_ne_allOnes oneBelow
        (UnpackedFloat.unpackExponent_packComponents.symm.trans exponentEq)
  | case5 sign mantissa exponent positive bits biased fits full =>
      intro exponentEq _
      exact ofNat_ne_allOnes (not_le.mp fits)
        (UnpackedFloat.unpackExponent_packComponents.symm.trans exponentEq)

theorem isNaN_roundWithAccuracy (format : Format) (sign : UnpackedFloat.Sign) (mantissa : Nat)
    (exponent : Int) (accuracy : UnpackedFloat.Accuracy) :
    (UnpackedFloat.roundWithAccuracy format sign mantissa exponent accuracy).isNaN = false := by
  simp only [UnpackedFloat.roundWithAccuracy]
  split <;> rfl

theorem isNaN_unpackedDiv (format : Format) {dividend divisor : UnpackedFloat}
    (dividendFinite : dividend.isFinite = true) (divisorFinite : divisor.isFinite = true)
    (nonzero : side divisor ≠ some .eq) :
    (UnpackedFloat.div format dividend divisor).isNaN = false := by
  cases divisor with
  | notANumber | infinity sign => simp [UnpackedFloat.isFinite] at divisorFinite
  | zero sign => simp [side] at nonzero
  | finite sign mantissa exponent positive =>
      cases dividend with
      | notANumber | infinity other => simp [UnpackedFloat.isFinite] at dividendFinite
      | zero other => rfl
      | finite other => exact isNaN_roundWithAccuracy ..

/-- The quotient of a finite double by one that is finite and not zero is not undefined. -/
theorem isNaN_div {dividend divisor : Float} (dividendFinite : dividend.isFinite = true)
    (divisorFinite : divisor.isFinite = true) (nonzero : (divisor == 0.0) = false) :
    (dividend / divisor).isNaN = false := by
  apply isNaN_unpack_pack
  apply isNaN_unpackedDiv Format.binary64 dividendFinite divisorFinite
  intro zero
  rw [beq_zero_iff.mpr zero] at nonzero
  contradiction

theorem isNaN_abs {value : Float} (ordinary : value.isNaN = false) : value.abs.isNaN = false := by
  apply isNaN_unpack_pack
  have shown : value.toModel.unpack.isNaN = false := ordinary
  cases unpacked : value.toModel.unpack with
  | notANumber => simp [unpacked, UnpackedFloat.isNaN] at shown
  | zero sign | infinity sign | finite sign => rfl

def infinity : Float := 1.0 / 0.0

theorem beq_infinity_iff {value : Float} :
    (value == infinity) = true ↔ value.toModel.unpack = .infinity .positive := by
  have unpacked : infinity.toModel.unpack = .infinity .positive := rfl
  change value.toModel.unpack.beq infinity.toModel.unpack = true ↔ _
  rw [unpacked, UnpackedFloat.beq_iff_ne_notANumber_and_eq]
  simp +contextual

theorem beq_neg_infinity_iff {value : Float} :
    (value == -infinity) = true ↔ value.toModel.unpack = .infinity .negative := by
  have unpacked : (-infinity).toModel.unpack = .infinity .negative := rfl
  change value.toModel.unpack.beq (-infinity).toModel.unpack = true ↔ _
  rw [unpacked, UnpackedFloat.beq_iff_ne_notANumber_and_eq]
  simp +contextual

/-- A double that is not undefined is finite or one of the infinities. -/
theorem isFinite_eq_false_iff {value : Float} (ordinary : value.isNaN = false) :
    value.isFinite = false ↔ (value == infinity) = true ∨ (value == -infinity) = true := by
  have shown : value.toModel.unpack.isNaN = false := ordinary
  rw [beq_infinity_iff, beq_neg_infinity_iff]
  change value.toModel.unpack.isFinite = false ↔ _
  cases unpacked : value.toModel.unpack with
  | notANumber => simp [unpacked, UnpackedFloat.isNaN] at shown
  | zero sign | finite sign => simp [UnpackedFloat.isFinite]
  | infinity sign => cases sign <;> simp [UnpackedFloat.isFinite]

theorem beq_infinity_of_not_lt {value other : Float} (ordinary : other.isNaN = false)
    (above : (value == infinity) = true) (notLess : ¬other < value) :
    (other == infinity) = true := by
  have shown : other.toModel.unpack.isNaN = false := ordinary
  rw [beq_infinity_iff] at above ⊢
  rw [lt_iff_height, above] at notLess
  cases unpacked : other.toModel.unpack with
  | notANumber => simp [unpacked, UnpackedFloat.isNaN] at shown
  | zero sign => simp [unpacked, height, Prod.Lex.toLex_lt_toLex] at notLess
  | infinity sign | finite sign =>
      cases sign <;> simp [unpacked, height, Prod.Lex.toLex_lt_toLex] at notLess ⊢

theorem beq_neg_infinity_of_not_lt {value other : Float} (ordinary : value.isNaN = false)
    (below : (other == -infinity) = true) (notLess : ¬other < value) :
    (value == -infinity) = true := by
  have shown : value.toModel.unpack.isNaN = false := ordinary
  rw [beq_neg_infinity_iff] at below ⊢
  rw [lt_iff_height, below] at notLess
  cases unpacked : value.toModel.unpack with
  | notANumber => simp [unpacked, UnpackedFloat.isNaN] at shown
  | zero sign => simp [unpacked, height, Prod.Lex.toLex_lt_toLex] at notLess
  | infinity sign | finite sign =>
      cases sign <;> simp [unpacked, height, Prod.Lex.toLex_lt_toLex] at notLess ⊢

end SimplexReplay.Double
