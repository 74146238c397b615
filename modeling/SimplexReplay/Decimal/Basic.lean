/-!
# Doubles and decimals as exact numbers

A finite double is a natural number times a power of two, with a sign, and a decimal is a natural
number times a power of ten, with a sign.  Everything that is written about a double starts from
these forms, so that digits are found in exact integer arithmetic and no rounding hides between a
number and its text.
-/

namespace SimplexReplay

namespace Decimal

/-- The exact value `mantissa * 2 ^ exponent` of a finite double, and its sign.  Zero keeps its
sign. -/
structure Binary where
  negative : Bool
  mantissa : Nat
  exponent : Int
deriving DecidableEq, Repr

/-- What a double holds: an undefined result, an infinity or a number. -/
inductive Content where
  | nan
  | infinite (negative : Bool)
  | finite (value : Binary)
deriving DecidableEq, Repr

/-- The least exponent of a finite double, reached by the subnormal numbers. -/
def leastExponent : Int := -1074

def hiddenBit : Nat := Nat.pow 2 52

/-- Splits the 64 bits of a double into sign, exponent and fraction. -/
def contentOfBits (bits : Nat) : Content :=
  let negative := bits / Nat.pow 2 63 % 2 == 1
  let field : Nat := bits / hiddenBit % Nat.pow 2 11
  let fraction := bits % hiddenBit
  if field = 2047 then
    if fraction = 0 then .infinite negative else .nan
  else if field = 0 then
    .finite ⟨negative, fraction, leastExponent⟩
  else
    .finite ⟨negative, hiddenBit + fraction, leastExponent + (field : Int) - 1⟩

def content (value : Float) : Content :=
  contentOfBits value.toBits.toNat

namespace Binary

/-- The numerator of the size of the number, in the fraction that has a power of two below. -/
def numerator (value : Binary) : Nat :=
  value.mantissa * Nat.pow 2 value.exponent.toNat

def denominator (value : Binary) : Nat :=
  Nat.pow 2 (-value.exponent).toNat

end Binary

end Decimal

/-- The value `significand * 10 ^ exponent`, and its sign. -/
structure Decimal where
  negative : Bool
  significand : Nat
  exponent : Int
deriving DecidableEq, Repr

namespace Decimal

/-- Divides by ten as long as the last digit is zero, and counts the divisions. -/
def dropZeros (significand : Nat) : Nat × Nat :=
  if significand ≠ 0 ∧ significand % 10 = 0 then
    let (rest, count) := dropZeros (significand / 10)
    (rest, count + 1)
  else
    (significand, 0)
termination_by significand
decreasing_by omega

/-- The same value with no zero at the end of its digits; zero itself has exponent zero. -/
def normalized (value : Decimal) : Decimal :=
  let (rest, count) := dropZeros value.significand
  { value with
    significand := rest
    exponent := if rest = 0 then 0 else value.exponent + count }

def digits (number : Nat) : List Char :=
  Nat.toDigits 10 number

/-- The power of ten of the first digit. -/
def leadingExponent (value : Decimal) : Int :=
  value.exponent + (digits value.significand).length - 1

/-- Compares `first / second` with `10 ^ power` from above. -/
def atLeastPower (first second : Nat) (power : Int) : Bool :=
  second * Nat.pow 10 power.toNat ≤ first * Nat.pow 10 (-power).toNat

/-- The largest power of ten that is at most the fraction `first / second`, for positive parts:
the numbers of digits leave two candidates. -/
def magnitudeOf (first second : Nat) : Int :=
  let guess : Int := (digits first).length - (digits second).length
  if atLeastPower first second guess then guess else guess - 1

/-- The fraction `first / second` divided by `10 ^ power`, again as a fraction. -/
def scaleDown (first second : Nat) (power : Int) : Nat × Nat :=
  (first * Nat.pow 10 (-power).toNat, second * Nat.pow 10 power.toNat)

end Decimal

end SimplexReplay
