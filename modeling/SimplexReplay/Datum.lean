import SimplexReplay.Decimal.Layout
import SimplexReplay.Decimal.Reading
import SimplexReplay.Fault
import SimplexReplay.Position

/-!
# Loosely typed values

Options, program entries and recorded steps arrive as values whose type is known only when they
are looked at.  This module holds the type of these values and the ways to read a number off one.

Numbers agree by their value, whatever their type, and truth values count as zero and one.
Sequences agree member by member, and records name by name in any order.
-/

namespace SimplexReplay

/-- A value of a type that is not fixed beforehand.  A record keeps its fields in order. -/
inductive Datum where
  | null
  | truth (value : Bool)
  | whole (value : Int)
  | real (value : Float)
  | text (value : String)
  | list (items : List Datum)
  | record (fields : List (String × Datum))

abbrev Fields := List (String × Datum)

namespace Datum

def toFloat : Datum → Except Fault Float
  | truth value => .ok (if value then 1.0 else 0.0)
  | whole value =>
      match Decimal.floatOfInt value with
      | some number => .ok number
      | none => .error .numberTooLarge
  | real value => .ok value
  | text value =>
      match Decimal.readFloat value with
      | some number => .ok number
      | none => .error .unreadableNumber
  | null | list _ | record _ => .error .wrongType

def leastWord : Int := -9223372036854775808

def greatestWord : Int := 18446744073709551615

/-- Whether an integer fits into 64 bits, with a sign or without. -/
def isWord (value : Int) : Bool :=
  decide (leastWord ≤ value) && decide (value ≤ greatestWord)

def truncated (value : Decimal.Binary) : Int :=
  let size : Int := value.numerator / value.denominator
  if value.negative then -size else size

/-- The integer that a value stands for; a double loses its fraction. -/
def toInt : Datum → Except Fault Int
  | truth value => .ok (if value then 1 else 0)
  | whole value => .ok value
  | real value =>
      match Decimal.content value with
      | .finite binary => .ok (truncated binary)
      | .infinite _ => .error .numberTooLarge
      | .nan => .error .unreadableNumber
  | text value =>
      match Decimal.readInt value with
      | some number => .ok number
      | none => .error .unreadableNumber
  | null | list _ | record _ => .error .wrongType

def toPosition : Datum → Except Fault Int
  | truth value => .ok (if value then 1 else 0)
  | whole value => .ok value
  | null | real _ | text _ | list _ | record _ => .error .wrongType

/-- The members of a sequence: a text is the sequence of its characters, a record the sequence of
its names. -/
def members : Datum → Except Fault (List Datum)
  | text value => .ok (value.toList.map fun char => text (String.ofList [char]))
  | list items => .ok items
  | record fields => .ok (fields.map fun field => text field.1)
  | null | truth _ | whole _ | real _ => .error .wrongType

/-- The stretch of a sequence that three values stand for; what is null is absent.  The stride is
looked at first. -/
def toStretch (start stop stride : Datum) : Except Fault Stretch := do
  let optional (value : Datum) : Except Fault (Option Int) :=
    match value with
    | null => .ok none
    | other => other.toPosition.map some
  let distance ← optional stride
  if distance = some 0 then
    throw .zeroStride
  let first ← optional start
  let last ← optional stop
  return ⟨first, last, distance⟩

/-- The stretch that the members of a sequence stand for: the stop alone, or start and stop, or
start, stop and stride. -/
def toStretchOf (value : Datum) : Except Fault Stretch := do
  match ← value.members with
  | [stop] => toStretch null stop null
  | [start, stop] => toStretch start stop null
  | [start, stop, stride] => toStretch start stop stride
  | _ => throw .wrongType

/-- Whether a value counts as switched on: all do but null, `false`, zero and what is empty. -/
def isOn : Datum → Bool
  | null => false
  | truth value => value
  | whole value => value ≠ 0
  | real value => !(value == 0.0)
  | text value => !value.isEmpty
  | list items => !items.isEmpty
  | record fields => !fields.isEmpty

/-- The value under a name, if the record has the name. -/
def field? (name : String) (fields : Fields) : Option Datum :=
  (fields.find? fun field => field.1 = name).map (·.2)

def fieldOr (name : String) (default : Datum) (fields : Fields) : Datum :=
  (field? name fields).getD default

def needField (name : String) (fields : Fields) : Except Fault Datum :=
  match field? name fields with
  | some value => .ok value
  | none => .error .missingField

/-- The fields with a value put under a name: in the place of the old one, or else at the end. -/
def putField (name : String) (value : Datum) : Fields → Fields
  | [] => [(name, value)]
  | field :: rest =>
      if field.1 = name then (name, value) :: rest else field :: putField name value rest

/-- The name that a value can be in a record: any value but a sequence or a record. -/
def toName : Datum → Except Fault String
  | null => .ok "None"
  | truth value => .ok (if value then "True" else "False")
  | whole value => .ok (toString value)
  | real value => .ok (Decimal.fullText value)
  | text value => .ok value
  | list _ | record _ => .error .wrongType

def toField (pair : Datum) : Except Fault (String × Datum) := do
  match ← pair.members with
  | [name, value] => return (← name.toName, value)
  | _ => throw .ragged

/-- The fields that a value stands for.  A sequence of pairs stands for the fields that are put one
after the other. -/
def toFields : Datum → Except Fault Fields
  | record fields => .ok fields
  | value => do
      let pairs ← value.members
      let fields ← pairs.mapM toField
      return fields.foldl (fun before field => putField field.1 field.2 before) []

def sameNumber (integer : Int) (number : Float) : Bool :=
  match Decimal.content number with
  | .finite binary =>
      let size : Int := binary.numerator
      integer * binary.denominator == if binary.negative then -size else size
  | .infinite _ | .nan => false

/-- Whether two single values agree; truth values count as zero and one. -/
def sameSingle : Datum → Datum → Bool
  | null, null => true
  | text first, text second => first == second
  | real first, real second => first == second
  | real first, whole second | whole second, real first => sameNumber second first
  | real first, truth second | truth second, real first =>
      sameNumber (if second then 1 else 0) first
  | whole first, whole second => first == second
  | truth first, truth second => first == second
  | whole first, truth second | truth second, whole first => first == if second then 1 else 0
  | _, _ => false

mutual

/-- Whether two values agree: sequences member by member, records name by name in any order. -/
def agrees : Datum → Datum → Bool
  | list first, list second => allAgree first second
  | record first, record second => first.length == second.length && fieldsAgree first second
  | first, second => sameSingle first second

def allAgree : List Datum → List Datum → Bool
  | [], [] => true
  | first :: firstRest, second :: secondRest =>
      agrees first second && allAgree firstRest secondRest
  | _, _ => false

def fieldsAgree : List (String × Datum) → Fields → Bool
  | [], _ => true
  | field :: rest, others => fieldAgrees field others && fieldsAgree rest others

def fieldAgrees : String × Datum → Fields → Bool
  | (name, value), others =>
      match field? name others with
      | some other => agrees value other
      | none => false

end

end Datum

end SimplexReplay
