import SimplexReplay.Decimal.Basic
import SimplexReplay.Text.Characters

/-!
# Reading numbers

Numbers are read from text with decimal digits of any script.  Blanks around the number are
dropped, a single underscore may stand between two digits, and a real number may have a point and
an exponent or be one of the words for infinity and for an undefined result.
-/

namespace SimplexReplay.Decimal

/-- Blanks that may surround a number: all but the information separators. -/
def isNumberBlank (char : Char) : Bool :=
  Text.isBlank char && !Text.inRanges [(0x1C, 0x1F)] char.toNat

/-- A character of a number, with its digit decoded if it is one of any script. -/
inductive Symbol where
  | digit (value : Nat)
  | other (char : Char)
deriving DecidableEq, Repr

def symbolOf (char : Char) : Symbol :=
  match Text.decimalValue? char with
  | some value => .digit value
  | none => .other char

def symbols (text : String) : List Symbol :=
  (Text.trimBy isNumberBlank text.toList).map symbolOf

/-- Removes the underscores, each of which must stand between two digits. -/
def dropUnderscores : List Symbol → Option (List Symbol)
  | .digit before :: .other '_' :: .digit next :: rest =>
      (dropUnderscores (.digit next :: rest)).map (.digit before :: ·)
  | .other '_' :: _ => none
  | symbol :: rest => (dropUnderscores rest).map (symbol :: ·)
  | [] => some []

def spanDigits : List Symbol → List Nat × List Symbol
  | .digit value :: rest =>
      let (values, remaining) := spanDigits rest
      (value :: values, remaining)
  | rest => ([], rest)

def ofDigits (values : List Nat) : Nat :=
  values.foldl (fun number value => 10 * number + value) 0

/-- Splits a sign off the front; `true` stands for minus. -/
def splitSign : List Symbol → Bool × List Symbol
  | .other '-' :: rest => (true, rest)
  | .other '+' :: rest => (false, rest)
  | rest => (false, rest)

/-- The exponent behind the letter, which ends the number. -/
def readExponent (rest : List Symbol) : Option Int :=
  let (negative, unsigned) := splitSign rest
  match spanDigits unsigned with
  | ([], _) => none
  | (values, []) => some (if negative then -(ofDigits values : Int) else ofDigits values)
  | (_, _ :: _) => none

/-- The digits behind a point, if there is a point. -/
def spanFraction : List Symbol → List Nat × List Symbol
  | .other '.' :: rest => spanDigits rest
  | rest => ([], rest)

/-- The power of ten written behind the digits: none written means zero. -/
def readPower : List Symbol → Option Int
  | [] => some 0
  | Symbol.other letter :: rest =>
      if letter = 'e' ∨ letter = 'E' then readExponent rest else none
  | Symbol.digit _ :: _ => none

/-- An unsigned decimal: digits with an optional point among them, at least one digit, and an
optional exponent. -/
def readUnsigned (unsigned : List Symbol) : Option (Nat × Int) :=
  let (whole, afterWhole) := spanDigits unsigned
  let (fraction, afterFraction) := spanFraction afterWhole
  if whole.isEmpty && fraction.isEmpty then none
  else
    (readPower afterFraction).map fun power =>
      (ofDigits (whole ++ fraction), power - fraction.length)

/-- What a text says about a real number. -/
inductive Reading where
  | decimal (value : Decimal)
  | infinite (negative : Bool)
  | undefined
deriving DecidableEq, Repr

def letterOf : Symbol → Option Char
  | Symbol.digit _ => none
  | Symbol.other char => some char.toLower

/-- The word spelt by the symbols, or nothing if a digit occurs. -/
def asWord (unsigned : List Symbol) : Option String :=
  (unsigned.mapM letterOf).map String.ofList

def read (text : String) : Option Reading :=
  let (negative, unsigned) := splitSign (symbols text)
  match asWord unsigned with
  | some "inf" | some "infinity" => some (.infinite negative)
  | some "nan" => some .undefined
  | _ => do
      let plain ← dropUnderscores unsigned
      let (significand, exponent) ← readUnsigned plain
      return .decimal ⟨negative, significand, exponent⟩

/-- The double nearest to a decimal; what is too large becomes infinite, and what is far below the
least positive double becomes zero. -/
def nearestDouble (value : Decimal) : Float :=
  let size : Float :=
    if value.significand = 0 then 0.0
    else if 310 ≤ value.leadingExponent then 1.0 / 0.0
    else if value.leadingExponent < -330 then 0.0
    else Float.ofScientific value.significand (value.exponent < 0) value.exponent.natAbs
  if value.negative then -size else size

def Reading.toFloat : Reading → Float
  | .decimal value => nearestDouble value
  | .infinite negative => if negative then -1.0 / 0.0 else 1.0 / 0.0
  | .undefined => 0.0 / 0.0

def readFloat (text : String) : Option Float :=
  (read text).map Reading.toFloat

/-- The double nearest to an integer, unless it exceeds all doubles. -/
def floatOfInt (number : Int) : Option Float :=
  let value := nearestDouble ⟨number < 0, number.natAbs, 0⟩
  if value.isFinite then some value else none

/-- Numerals with more digits are refused. -/
def digitLimit : Nat := 4300

/-- Reads an integer: an optional sign and digits. -/
def readInt (text : String) : Option Int := do
  let (negative, unsigned) := splitSign (symbols text)
  let plain ← dropUnderscores unsigned
  match spanDigits plain with
  | ([], _) => none
  | (values, []) =>
      if digitLimit < values.length then none
      else if negative then some (-(ofDigits values : Int))
      else some (ofDigits values)
  | (_, _ :: _) => none

end SimplexReplay.Decimal
