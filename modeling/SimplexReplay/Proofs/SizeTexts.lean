import SimplexReplay.Proofs.AboveZero
import SimplexReplay.Proofs.NumberTexts

/-!
# The text of a double and of its size

The absolute value of a double has the exponent and the fraction of the double and no sign.  So the
text of a finite double other than zero is the text of its size, behind a minus sign exactly if the
double is below zero, and it is settled by the two.
-/

namespace SimplexReplay

namespace Double

open Float.Model

/-- The sign plays no part in how a number is packed, except that it is packed with it. -/
theorem pack_abs {format : Format} {value : UnpackedFloat} (ordinary : value.isNaN = false) :
    UnpackedFloat.pack format value.abs =
      UnpackedFloat.packComponents format .positive
        (UnpackedFloat.unpackExponent (UnpackedFloat.pack format value))
        (UnpackedFloat.unpackMantissa (UnpackedFloat.pack format value)) := by
  cases value with
  | notANumber => simp [UnpackedFloat.isNaN] at ordinary
  | zero sign | infinity sign =>
      simp only [UnpackedFloat.abs, UnpackedFloat.pack, UnpackedFloat.packedZero,
        UnpackedFloat.packedInfinity, UnpackedFloat.unpackExponent_packComponents,
        UnpackedFloat.unpackMantissa_packComponents]
  | finite sign mantissa exponent positive =>
      simp only [UnpackedFloat.abs, UnpackedFloat.pack, UnpackedFloat.packedInfinity]
      split_ifs <;>
        simp only [UnpackedFloat.unpackExponent_packComponents,
          UnpackedFloat.unpackMantissa_packComponents]

/-- The bits of a double, from which it is unpacked. -/
def bits (value : Float) : BitVec Format.binary64.numBits :=
  value.toBits.toBitVec

theorem bits_abs {value : Float} (ordinary : value.isNaN = false) :
    bits value.abs = UnpackedFloat.packComponents Format.binary64 .positive
      (UnpackedFloat.unpackExponent (bits value)) (UnpackedFloat.unpackMantissa (bits value)) := by
  have packed : UnpackedFloat.pack Format.binary64 value.toModel.unpack = bits value :=
    UnpackedFloat.pack_unpack_of_valid value.toModel.valid
  rw [← packed]
  exact pack_abs ordinary

theorem toNat_packComponents (sign : UnpackedFloat.Sign) (exponent : BitVec 11)
    (mantissa : BitVec 52) :
    (UnpackedFloat.packComponents Format.binary64 sign exponent mantissa).toNat =
      (sign == .negative).toNat * 2 ^ 63 + exponent.toNat * 2 ^ 52 + mantissa.toNat := by
  have signBit : sign.toBitVec.toNat = (sign == .negative).toNat := by cases sign <;> rfl
  change (sign.toBitVec ++ exponent ++ mantissa).toNat = _
  rw [BitVec.toNat_append, BitVec.toNat_append, ← Nat.shiftLeft_add_eq_or_of_lt exponent.isLt,
    ← Nat.shiftLeft_add_eq_or_of_lt mantissa.isLt, Nat.shiftLeft_eq, Nat.shiftLeft_eq, signBit]
  ring

theorem isNaN_of_isFinite {value : Float} (finite : value.isFinite = true) :
    value.isNaN = false := by
  have shown : value.toModel.unpack.isFinite = true := finite
  change value.toModel.unpack.isNaN = false
  cases unpacked : value.toModel.unpack with
  | notANumber | infinity sign => simp [unpacked, UnpackedFloat.isFinite] at shown
  | zero sign | finite sign => rfl

theorem unpackExponent_ne_of_isFinite {value : Float} (finite : value.isFinite = true) :
    UnpackedFloat.unpackExponent (bits value) ≠ -1#11 := by
  have shown : (UnpackedFloat.unpack Format.binary64 (bits value)).isFinite = true := finite
  revert shown
  fun_cases UnpackedFloat.unpack Format.binary64 (bits value) with
  | case1 | case2 => simp [UnpackedFloat.isFinite]
  | case3 | case4 | case5 =>
      intro _
      assumption

/-- A double that is finite and not zero is below zero exactly if its sign bit is set. -/
theorem lt_zero_iff_unpackSign {value : Float} (finite : value.isFinite = true)
    (nonzero : (value == 0.0) = false) :
    value < 0.0 ↔
      UnpackedFloat.Sign.ofBitVec (UnpackedFloat.unpackSign (bits value)) = .negative := by
  have shown : (UnpackedFloat.unpack Format.binary64 (bits value)).isFinite = true := finite
  have notZero : side (UnpackedFloat.unpack Format.binary64 (bits value)) ≠ some .eq := by
    intro zero
    rw [beq_zero_iff.mpr zero] at nonzero
    contradiction
  rw [lt_zero_iff]
  change side (UnpackedFloat.unpack Format.binary64 (bits value)) = some .lt ↔ _
  revert shown notZero
  fun_cases UnpackedFloat.unpack Format.binary64 (bits value) with
  | case1 | case2 => simp [UnpackedFloat.isFinite]
  | case3 => simp [side]
  | case4 _ _ _ _ sign | case5 _ _ _ _ sign =>
      intro _ _
      change _ ↔ sign = _
      cases sign <;> simp [side]

theorem beq_symm {first second : Float} (equal : (first == second) = true) :
    (second == first) = true := by
  rw [Float.beq_iff_ne_nan_and_eq] at equal ⊢
  tauto

/-- Doubles that equal a third one are equal: up to the two zeros they are the same. -/
theorem beq_of_beq {first second third : Float} (firstEq : (third == first) = true)
    (secondEq : (third == second) = true) : (first == second) = true := by
  rw [Float.beq_iff_ne_nan_and_eq] at firstEq secondEq ⊢
  obtain ⟨-, firstDefined, firstCases⟩ := firstEq
  obtain ⟨-, secondDefined, secondCases⟩ := secondEq
  refine ⟨firstDefined, secondDefined, ?_⟩
  rcases firstCases with rfl | ⟨rfl, rfl⟩ | ⟨rfl, rfl⟩
  · exact secondCases
  · rcases secondCases with rfl | ⟨-, rfl⟩ | ⟨-, rfl⟩
    · exact Or.inr (Or.inr ⟨rfl, rfl⟩)
    · exact Or.inl rfl
    · exact Or.inr (Or.inr ⟨rfl, rfl⟩)
  · rcases secondCases with rfl | ⟨-, rfl⟩ | ⟨-, rfl⟩
    · exact Or.inr (Or.inl ⟨rfl, rfl⟩)
    · exact Or.inr (Or.inl ⟨rfl, rfl⟩)
    · exact Or.inl rfl

end Double

namespace Decimal

open Float.Model

theorem contentOfBits_of_fields (negative : Bool) {field fraction : Nat} (short : field < 2047)
    (full : fraction < 2 ^ 52) :
    contentOfBits (negative.toNat * 2 ^ 63 + field * 2 ^ 52 + fraction) =
      if field = 0 then .finite ⟨negative, fraction, leastExponent⟩
      else .finite ⟨negative, hiddenBit + fraction, leastExponent + field - 1⟩ := by
  have signed : negative.toNat ≤ 1 := Bool.toNat_le negative
  generalize number : negative.toNat * 2 ^ 63 + field * 2 ^ 52 + fraction = bits
  have fieldEq : bits / hiddenBit % Nat.pow 2 11 = field := by
    change bits / 4503599627370496 % 2048 = field
    omega
  have fractionEq : bits % hiddenBit = fraction := by
    change bits % 4503599627370496 = fraction
    omega
  have signEq : (bits / Nat.pow 2 63 % 2 == 1) = negative := by
    have quotient : bits / 9223372036854775808 % 2 = negative.toNat := by omega
    change (bits / 9223372036854775808 % 2 == 1) = negative
    rw [quotient]
    cases negative <;> rfl
  rw [contentOfBits, fieldEq, fractionEq, signEq, if_neg (by omega)]

/-- Doubles that differ in their signs only hold the same number under that sign. -/
theorem exists_contentOfBits {exponent : BitVec 11} (notGreatest : exponent ≠ -1#11)
    (mantissa : BitVec 52) :
    ∃ significand power, ∀ sign,
      contentOfBits (UnpackedFloat.packComponents Format.binary64 sign exponent mantissa).toNat =
        .finite ⟨sign == .negative, significand, power⟩ := by
  have short : exponent.toNat < 2047 := by
    have bound := exponent.isLt
    have differs : exponent.toNat ≠ 2047 := fun greatest =>
      notGreatest (BitVec.eq_of_toNat_eq greatest)
    omega
  have contents (sign : UnpackedFloat.Sign) :
      contentOfBits (UnpackedFloat.packComponents Format.binary64 sign exponent mantissa).toNat =
        _ := (congrArg contentOfBits (Double.toNat_packComponents sign exponent mantissa)).trans
      (contentOfBits_of_fields (sign == .negative) short mantissa.isLt)
  by_cases subnormal : exponent.toNat = 0
  · exact ⟨_, _, fun sign => (contents sign).trans (if_pos subnormal)⟩
  · exact ⟨_, _, fun sign => (contents sign).trans (if_neg subnormal)⟩

/-- The size of a finite double is its content without the sign, and the sign of a double other
than zero tells whether it is below zero. -/
theorem exists_content {value : Float} (finite : value.isFinite = true) :
    ∃ binary, content value = .finite binary ∧
      content value.abs = .finite { binary with negative := false } ∧
      ((value == 0.0) = false → (binary.negative = true ↔ value < 0.0)) := by
  obtain ⟨significand, power, contents⟩ :=
    exists_contentOfBits (Double.unpackExponent_ne_of_isFinite finite)
      (UnpackedFloat.unpackMantissa (Double.bits value))
  let sign := UnpackedFloat.Sign.ofBitVec (UnpackedFloat.unpackSign (Double.bits value))
  have split : UnpackedFloat.packComponents Format.binary64 sign _ _ = Double.bits value :=
    UnpackedFloat.packComponents_unpackSign_unpackExponent_unpackMantissa (Double.bits value)
  refine ⟨⟨sign == .negative, significand, power⟩, ?_, ?_, fun nonzero => ?_⟩
  · rw [← contents sign, split]
    rfl
  · have absolute := contents .positive
    rw [← Double.bits_abs (Double.isNaN_of_isFinite finite)] at absolute
    exact absolute
  · rw [Double.lt_zero_iff_unpackSign finite nonzero]
    exact beq_iff_eq

theorem negative_normalized (value : Decimal) : value.normalized.negative = value.negative := rfl

theorem negative_significant (count : Nat) (value : Binary) :
    (significant count value).negative = value.negative := by
  rw [significant]
  split
  · rfl
  · exact negative_normalized _

theorem significant_unsigned (count : Nat) (value : Binary) :
    significant count { value with negative := false } =
      { significant count value with negative := false } := by
  simp only [significant]
  split <;> rfl

/-- The text of a finite double other than zero is that of its size, with a minus sign before it if
the double is below zero. -/
theorem toList_shortText {value : Float} (finite : value.isFinite = true)
    (nonzero : (value == 0.0) = false) :
    (shortText value).toList =
      if value < 0.0 then '-' :: (shortText value.abs).toList
      else (shortText value.abs).toList := by
  obtain ⟨binary, held, absolute, signed⟩ := exists_content finite
  have sizeEq : (shortText value.abs).toList = tableLayout.sizeText (significant 6 binary) := by
    rw [shortText, Layout.text, absolute]
    exact congrArg (fun rounded => (tableLayout.write rounded).toList)
      (significant_unsigned 6 binary)
  have textEq : (shortText value).toList = (tableLayout.write (significant 6 binary)).toList := by
    rw [shortText, Layout.text, held]
    rfl
  rw [textEq, sizeEq, Layout.toList_write, negative_significant]
  exact if_congr (signed nonzero) rfl rfl

theorem isSize_shortText_abs {value : Float} (finite : value.isFinite = true) :
    IsSize (shortText value.abs).toList := by
  obtain ⟨binary, -, absolute, -⟩ := exists_content finite
  rw [shortText, Layout.text, absolute]
  change IsSize (tableLayout.write (significant 6 { binary with negative := false })).toList
  rw [significant_unsigned]
  exact tableLayout.isSize_sizeText _

theorem isSizeMark_of_mem_shortText {value : Float} (finite : value.isFinite = true) {char : Char}
    (charMem : char ∈ (shortText value).toList) : IsSizeMark char := by
  obtain ⟨binary, held, -, -⟩ := exists_content finite
  rw [shortText, Layout.text, held, Layout.toList_write] at charMem
  have sizeMarks := (tableLayout.isSize_sizeText (tableLayout.round binary)).marks char
  split at charMem
  · rcases List.mem_cons.mp charMem with rfl | inSize
    · decide
    · exact sizeMarks inSize
  · exact sizeMarks charMem

/-- A double that is finite and comes back as an equal one from its text with six digits. -/
structure ReadsBack (value : Float) : Prop where
  finite : value.isFinite = true
  reads : ∃ read, readFloat (shortText value) = some read ∧ (read == value) = true

instance (value : Float) : Decidable (ReadsBack value) :=
  decidable_of_iff
    (value.isFinite = true ∧ (readFloat (shortText value)).any (fun read => read == value) = true)
    ⟨fun ⟨finite, reads⟩ => ⟨finite, (Option.any_eq_true ..).mp reads⟩,
      fun reads => ⟨reads.finite, (Option.any_eq_true ..).mpr reads.reads⟩⟩

namespace ReadsBack

variable {first second : Float}

theorem beq_of_shortText_eq (firstReads : ReadsBack first) (secondReads : ReadsBack second)
    (same : shortText first = shortText second) : (first == second) = true := by
  obtain ⟨read, readFirst, firstEq⟩ := firstReads.reads
  obtain ⟨other, readSecond, secondEq⟩ := secondReads.reads
  obtain rfl : read = other := by
    rw [same, readSecond] at readFirst
    exact (Option.some.inj readFirst).symm
  exact Double.beq_of_beq firstEq secondEq

/-- Two doubles that read back are equal if they are on one side of zero and their sizes have one
text. -/
theorem beq_of_abs (firstReads : ReadsBack first) (secondReads : ReadsBack second)
    (firstNonzero : (first == 0.0) = false) (secondNonzero : (second == 0.0) = false)
    (side : first < 0.0 ↔ second < 0.0)
    (sizes : (shortText first.abs).toList = (shortText second.abs).toList) :
    (first == second) = true := by
  apply beq_of_shortText_eq firstReads secondReads
  rw [← String.toList_inj, toList_shortText firstReads.finite firstNonzero,
    toList_shortText secondReads.finite secondNonzero, sizes]
  exact if_congr side rfl rfl

end ReadsBack

end Decimal

end SimplexReplay
