import Mathlib
import SimplexReplay.Options

/-!
# Values above a tolerance

No element above a tolerance that is at least zero compares equal to zero.  Over the rationals this
is plain order.  Over doubles it is read off their unpacked form, where infinities, both zeros and
undefined values are constructors of their own.  Every tolerance that the options let through is at
least zero: an integer is rounded to a double without changing its sign.
-/

namespace SimplexReplay

/-- Scalars in which nothing above a value that is at least zero equals zero. -/
class Scalar.SeparatesZero (α : Type) [Scalar α] : Prop where
  beq_zero_of_lt : ∀ {lower value : α}, 0 ≤ lower → lower < value → (value == 0) = false

instance : Scalar.SeparatesZero Rat where
  beq_zero_of_lt nonneg above := beq_eq_false_iff_ne.mpr (lt_of_le_of_lt nonneg above).ne'

namespace Double

open Float.Model

/-- The side of zero on which an unpacked double lies, if it lies on any. -/
def side : UnpackedFloat → Option Ordering
  | .notANumber => none
  | .zero _ => some .eq
  | .infinity .positive | .finite .positive _ _ _ => some .gt
  | .infinity .negative | .finite .negative _ _ _ => some .lt

theorem compare_zero (value : UnpackedFloat) (sign : UnpackedFloat.Sign) :
    value.compare (.zero sign) = side value := by
  cases value with
  | notANumber | zero other => rfl
  | infinity other | finite other => cases other <;> rfl

theorem zero_compare (value : UnpackedFloat) (sign : UnpackedFloat.Sign) :
    UnpackedFloat.compare (.zero sign) value = (side value).map Ordering.swap := by
  cases value with
  | notANumber | zero other => rfl
  | infinity other | finite other => cases other <;> rfl

theorem side_of_compare {lower value : UnpackedFloat} (above : lower.compare value = some .lt)
    (nonneg : side lower = some .eq ∨ side lower = some .gt) : side value = some .gt := by
  cases lower with
  | notANumber => simp [side] at nonneg
  | zero sign =>
      rw [zero_compare] at above
      cases shown : side value with
      | none => simp [shown] at above
      | some place => cases place <;> simp [shown] at above ⊢
  | infinity sign =>
      cases sign with
      | negative => simp [side] at nonneg
      | positive =>
          -- Nothing lies above positive infinity.
          cases value with
          | infinity other => cases other <;> simp [UnpackedFloat.compare, compare] at above
          | notANumber | zero other | finite other => simp [UnpackedFloat.compare] at above
  | finite sign mantissa exponent positive =>
      cases sign with
      | negative => simp [side] at nonneg
      | positive =>
          cases value with
          | notANumber | zero other => simp [UnpackedFloat.compare] at above
          | infinity other | finite other =>
              cases other <;> simp [UnpackedFloat.compare, side] at above ⊢

theorem unpack_zero : (0.0 : Float).toModel.unpack = .zero .positive := by
  have packed : (0.0 : Float).toModel = pack (.zero .positive) := by decide +kernel
  rw [packed]
  exact UnpackedFloat.unpack_packedZero

theorem beq_zero_iff {value : Float} :
    (value == 0.0) = true ↔ side value.toModel.unpack = some .eq := by
  change (value.toModel.unpack.beq (0.0 : Float).toModel.unpack) = true ↔ _
  rw [unpack_zero, UnpackedFloat.beq, compare_zero, beq_iff_eq]

theorem lt_zero_iff {value : Float} :
    value < 0.0 ↔ side value.toModel.unpack = some .lt := by
  change decide ((value.toModel.unpack.lt (0.0 : Float).toModel.unpack) = true) = true ↔ _
  rw [unpack_zero, UnpackedFloat.lt, compare_zero, decide_eq_true_iff, beq_iff_eq]

theorem zero_le_iff {value : Float} :
    0.0 ≤ value ↔
      side value.toModel.unpack = some .eq ∨ side value.toModel.unpack = some .gt := by
  change decide (UnpackedFloat.le (0.0 : Float).toModel.unpack value.toModel.unpack = true) = true
    ↔ _
  rw [unpack_zero, UnpackedFloat.le, zero_compare, decide_eq_true_iff]
  cases side value.toModel.unpack with
  | none => simp
  | some place => cases place <;> simp

instance : Scalar.SeparatesZero Float where
  beq_zero_of_lt := by
    intro lower value nonneg above
    have compared : lower.toModel.unpack.compare value.toModel.unpack = some .lt :=
      beq_iff_eq.mp (of_decide_eq_true above)
    have positive := side_of_compare compared (zero_le_iff.mp nonneg)
    apply Bool.eq_false_iff.mpr
    intro equal
    have zero := beq_zero_iff.mp equal
    rw [positive] at zero
    contradiction

theorem zero_le_of_isFinite {value : Float} (finite : value.isFinite = true)
    (notBelow : ¬value < 0.0) : 0.0 ≤ value := by
  have shown : value.toModel.unpack.isFinite = true := finite
  rw [lt_zero_iff] at notBelow
  rw [zero_le_iff]
  cases unpacked : value.toModel.unpack with
  | notANumber => simp [unpacked, UnpackedFloat.isFinite] at shown
  | infinity sign => simp [unpacked, UnpackedFloat.isFinite] at shown
  | zero sign => exact Or.inl rfl
  | finite sign => cases sign <;> simp [unpacked, side] at notBelow ⊢

/-- An unpacked double that bears no minus sign. -/
def Unsigned : UnpackedFloat → Prop
  | .notANumber => True
  | .infinity sign | .zero sign | .finite sign _ _ _ => sign = .positive

theorem Unsigned.side_ne_lt {value : UnpackedFloat} (unsigned : Unsigned value) :
    side value ≠ some .lt := by
  cases value with
  | notANumber => simp [side]
  | zero sign => simp [side]
  | infinity sign | finite sign =>
      obtain rfl : sign = .positive := unsigned
      simp [side]

theorem unsigned_finite {mantissa : Nat} {exponent : Int} {positive : 0 < mantissa} :
    Unsigned (.finite .positive mantissa exponent positive) := rfl

theorem unsigned_unpack {format : Format} {bits : BitVec format.numBits}
    (positive : UnpackedFloat.unpackSign bits = UnpackedFloat.Sign.positive.toBitVec) :
    Unsigned (UnpackedFloat.unpack format bits) := by
  fun_cases UnpackedFloat.unpack format bits <;> simp +zetaDelta [Unsigned, positive]

theorem Unsigned.unpack_pack {format : Format} {value : UnpackedFloat}
    (unsigned : Unsigned value) :
    Unsigned (UnpackedFloat.unpack format (UnpackedFloat.pack format value)) := by
  apply unsigned_unpack
  fun_cases UnpackedFloat.pack format value with
  | case1 => exact UnpackedFloat.unpackSign_packComponents ..
  | case2 sign | case3 sign | case4 sign | case5 sign | case6 sign =>
      obtain rfl : sign = .positive := unsigned
      exact UnpackedFloat.unpackSign_packComponents ..

theorem unsigned_roundWithAccuracy (format : Format) (mantissa : Nat) (exponent : Int)
    (accuracy : UnpackedFloat.Accuracy) :
    Unsigned (UnpackedFloat.roundWithAccuracy format .positive mantissa exponent accuracy) := by
  simp only [UnpackedFloat.roundWithAccuracy]
  split <;> rfl

theorem Unsigned.mul {format : Format} {first second : UnpackedFloat}
    (firstUnsigned : Unsigned first) (secondUnsigned : Unsigned second) :
    Unsigned (UnpackedFloat.mul format first second) := by
  have square : UnpackedFloat.Sign.positive * .positive = .positive := rfl
  fun_cases UnpackedFloat.mul format first second <;> simp_all [Unsigned]
  exact unsigned_roundWithAccuracy ..

theorem Unsigned.div {format : Format} {first second : UnpackedFloat}
    (firstUnsigned : Unsigned first) (secondUnsigned : Unsigned second) :
    Unsigned (UnpackedFloat.div format first second) := by
  have quotient : UnpackedFloat.Sign.positive / .positive = .positive := rfl
  fun_cases UnpackedFloat.div format first second <;> simp_all [Unsigned]
  exact unsigned_roundWithAccuracy ..

theorem unsigned_ofNat (format : Format) (number : Nat) :
    Unsigned (UnpackedFloat.ofNat format number) := by
  rw [UnpackedFloat.ofNat, UnpackedFloat.ofInt, UnpackedFloat.normalize]
  split
  · rename_i below
    rw [Int.compare_eq_lt] at below
    omega
  · rfl
  · exact unsigned_roundWithAccuracy ..

theorem unsigned_unpackedScientific (format : Format) (number : Nat) (exponent : Int) :
    Unsigned (UnpackedFloat.ofScientific format number exponent) := by
  unfold UnpackedFloat.ofScientific
  split_ifs
  · rfl
  · rfl
  · rfl
  · exact unsigned_finite.mul unsigned_finite
  · exact unsigned_finite.div unsigned_finite

theorem unsigned_powerOfTen {power : Float}
    (powerMem : power ∈ Float.exactlyRepresentablePowersOfTen.toList) :
    Unsigned power.toModel.unpack := by
  apply unsigned_unpack
  revert power
  decide +kernel

theorem unsigned_ofScientific (number : Nat) (below : Bool) (power : Nat) :
    Unsigned (Float.ofScientific number below power).toModel.unpack := by
  by_cases small : number < 2 ^ 53 ∧ power ≤ 22
  · have whole : Unsigned (UnpackedFloat.unpack Format.binary64 (UnpackedFloat.pack _ _)) :=
      (unsigned_ofNat Format.binary64 number.toUInt64.toNat).unpack_pack
    have listed := unsigned_powerOfTen (Array.getElem_mem_toList (show
      power < Float.exactlyRepresentablePowersOfTen.size from Nat.lt_succ_of_le small.2))
    rw [Float.ofScientific, dif_pos small]
    split
    · exact (whole.div listed).unpack_pack
    · exact (whole.mul listed).unpack_pack
  · rw [Float.ofScientific, dif_neg small]
    exact (unsigned_unpackedScientific ..).unpack_pack

end Double

namespace Decimal

theorem zero_le_nearestDouble {value : Decimal} (unsigned : value.negative = false)
    (finite : (nearestDouble value).isFinite = true) : 0.0 ≤ nearestDouble value := by
  refine Double.zero_le_of_isFinite finite ?_
  have zeroNotBelow : ¬(0.0 : Float) < 0.0 := by decide +kernel
  have infinityNotBelow : ¬(1.0 / 0.0 : Float) < 0.0 := by decide +kernel
  simp only [nearestDouble, unsigned, Bool.false_eq_true, if_false]
  split_ifs
  · exact zeroNotBelow
  · exact infinityNotBelow
  · exact zeroNotBelow
  · rw [Double.lt_zero_iff]
    exact (Double.unsigned_ofScientific ..).side_ne_lt

theorem zero_le_of_floatOfInt {number : Int} (nonneg : ¬number < 0) {value : Float}
    (converted : floatOfInt number = some value) : 0.0 ≤ value := by
  have plus : decide (number < 0) = false := decide_eq_false nonneg
  rw [floatOfInt, plus] at converted
  split at converted
  · rename_i finite
    exact Option.some.inj converted ▸ zero_le_nearestDouble rfl finite
  · contradiction

end Decimal

/-- Every tolerance that the options let through is at least zero. -/
theorem Options.zero_le_of_readTolerance {given : Option Datum} {tolerance : Float}
    (accepted : readTolerance given = .ok tolerance) : 0.0 ≤ tolerance := by
  fun_cases readTolerance given with
  | case1 =>
      obtain rfl : defaultTolerance = tolerance := by simpa [readTolerance] using accepted
      decide +kernel
  | case2 | case3 | case5 | case7 => simp_all [readTolerance]
  | case4 number word nonneg =>
      rw [readTolerance, if_neg word, if_neg nonneg, Datum.toFloat] at accepted
      split at accepted
      · rename_i converted
        exact Except.ok.inj accepted ▸ Decimal.zero_le_of_floatOfInt nonneg converted
      · contradiction
  | case6 value usable =>
      rw [readTolerance, if_neg usable, Except.ok.injEq] at accepted
      simp only [Bool.or_eq_true, not_or, Bool.not_eq_true', decide_eq_true_eq,
        Bool.not_eq_false] at usable
      exact accepted ▸ Double.zero_le_of_isFinite usable.1 usable.2

end SimplexReplay
