import SimplexReplay.Decimal.Basic

/-!
# Doubles as text

A double is written with a number of significant digits, or else with the fewest digits that read
back as the double.  In the first case its exact value is rounded, and a value halfway between two
neighbours goes to the one whose last digit is even.  In the second case grids of one, two and more
digits are tried in turn: on each only the two neighbours of the value can lie in the interval of
numbers that round to it.

A layout says how many digits are shown, for which exponents a number is written positionally, and
whether a whole number keeps its point.
-/

namespace SimplexReplay

namespace Decimal

/-- The natural number nearest to `first / second`; halves go to the even neighbour. -/
def nearestEven (first second : Nat) : Nat :=
  let below := first / second
  let rest := first % second
  if 2 * rest < second then below
  else if second < 2 * rest then below + 1
  else if below % 2 = 0 then below
  else below + 1

def significant (count : Nat) (value : Binary) : Decimal :=
  if value.mantissa = 0 then
    ⟨value.negative, 0, 0⟩
  else
    let leading := magnitudeOf value.numerator value.denominator
    let last := leading - count + 1
    let (first, second) := scaleDown value.numerator value.denominator last
    normalized ⟨value.negative, nearestEven first second, last⟩

/-- Four times the mantissa of the lower end of the interval that rounds to the value.  Just above
a power of two the neighbour below is only half as far away. -/
def lowerEnd (value : Binary) : Nat :=
  if value.mantissa = hiddenBit ∧ leastExponent < value.exponent then
    4 * value.mantissa - 1
  else
    4 * value.mantissa - 2

def upperEnd (value : Binary) : Nat :=
  4 * value.mantissa + 2

/-- Compares `significand * 10 ^ power` with `quarters * 2 ^ (exponent - 2)`. -/
def compareQuarters (significand : Nat) (power : Int) (quarters : Nat) (exponent : Int) :
    Ordering :=
  compare
    (4 * significand * Nat.pow 10 power.toNat * Nat.pow 2 (-exponent).toNat)
    (quarters * Nat.pow 2 exponent.toNat * Nat.pow 10 (-power).toNat)

/-- Whether `significand * 10 ^ power` rounds to the value: the ends of the interval do exactly
when the mantissa is even. -/
def readsBack (value : Binary) (significand : Nat) (power : Int) : Bool :=
  let lower := compareQuarters significand power (lowerEnd value) value.exponent
  let upper := compareQuarters significand power (upperEnd value) value.exponent
  if value.mantissa % 2 = 0 then lower.isGE && upper.isLE else lower.isGT && upper.isLT

/-- The better of the two neighbours of the value among the multiples of `10 ^ power`, if one of
them reads back: the nearer one, and of two equally near ones the even one. -/
def onGrid (value : Binary) (power : Int) : Option Nat :=
  let (first, second) := scaleDown value.numerator value.denominator power
  let below := first / second
  let nearBelow := readsBack value below power
  let nearAbove := readsBack value (below + 1) power
  if nearBelow && nearAbove then
    let rest := first % second
    if 2 * rest < second then some below
    else if second < 2 * rest then some (below + 1)
    else if below % 2 = 0 then some below
    else some (below + 1)
  else if nearBelow then some below
  else if nearAbove then some (below + 1)
  else none

/-- Tries grids of growing fineness.  Seventeen digits tell all doubles apart, so the search ends
with a hit. -/
def searchGrids (value : Binary) (leading : Int) : (remaining used : Nat) → Decimal
  | 0, _ => ⟨value.negative, 0, 0⟩
  | remaining + 1, used =>
      let power := leading - used
      match onGrid value power with
      | some significand => normalized ⟨value.negative, significand, power⟩
      | none => searchGrids value leading remaining (used + 1)

def shortest (value : Binary) : Decimal :=
  if value.mantissa = 0 then
    ⟨value.negative, 0, 0⟩
  else
    searchGrids value (magnitudeOf value.numerator value.denominator) 17 0

/-- The decisions of a number format: how many digits are shown, or else the fewest that read back;
the least exponent of the first digit that is still written positionally, and the first one above it
that is not; and whether a whole number written positionally ends with a point and a zero. -/
structure Layout where
  digitCount : Option Nat
  leastPositional : Int
  leastScientific : Int
  keepsPoint : Bool
deriving DecidableEq, Repr

/-- The decimal exponent after the letter: a sign and at least two digits. -/
def exponentText (exponent : Int) : List Char :=
  let size := digits exponent.natAbs
  let padded := if size.length < 2 then '0' :: size else size
  (if exponent < 0 then '-' else '+') :: padded

/-- Sets the digits around the point at the place of the first digit. -/
def positional (keepsPoint : Bool) (shown : List Char) (leading : Int) : List Char :=
  if leading < 0 then
    '0' :: '.' :: (List.replicate (-leading - 1).toNat '0' ++ shown)
  else
    let wholeLength := leading.toNat + 1
    let whole := shown.take wholeLength
    let fraction := shown.drop wholeLength
    let padding := List.replicate (wholeLength - whole.length) '0'
    if fraction.isEmpty then
      whole ++ padding ++ (if keepsPoint then ['.', '0'] else [])
    else
      whole ++ '.' :: fraction

/-- Sets one digit before the point and the exponent behind. -/
def scientific (shown : List Char) (leading : Int) : List Char :=
  match shown with
  | [] => []
  | [first] => first :: 'e' :: exponentText leading
  | first :: rest => first :: '.' :: (rest ++ 'e' :: exponentText leading)

namespace Layout

def write (layout : Layout) (value : Decimal) : String :=
  let shown := digits value.significand
  let leading := value.leadingExponent
  let body :=
    if layout.leastPositional ≤ leading ∧ leading < layout.leastScientific then
      positional layout.keepsPoint shown leading
    else
      scientific shown leading
  String.ofList (if value.negative then '-' :: body else body)

def round (layout : Layout) (value : Binary) : Decimal :=
  match layout.digitCount with
  | some count => significant count value
  | none => shortest value

/-- The text of a double.  An undefined result has no sign. -/
def text (layout : Layout) (value : Float) : String :=
  match content value with
  | .nan => "nan"
  | .infinite negative => if negative then "-inf" else "inf"
  | .finite binary => layout.write (layout.round binary)

end Layout

/-- All digits that are needed to read the number back; exponents from -4 to 15 are written
positionally, and a whole number keeps its point. -/
def fullLayout : Layout := ⟨none, -4, 16, true⟩

/-- Six significant digits; exponents from -4 to 5 are written positionally, and a whole number
has no point. -/
def tableLayout : Layout := ⟨some 6, -4, 6, false⟩

def fullText (value : Float) : String := fullLayout.text value

def shortText (value : Float) : String := tableLayout.text value

end Decimal

end SimplexReplay
