import SimplexReplay.Datum
import SimplexReplay.Fault

/-!
# Nested sequences

A nested sequence is a single member or a sequence of nested sequences.  It is an array when all of
its parts agree on their lengths; an array has one length for each of its axes.

A loosely typed value that is a sequence is a nested sequence of its members; any other value is a
single member.  The members are looked at only after the shape.
-/

namespace SimplexReplay

/-- A member, or a sequence of nested sequences. -/
inductive Nested (α : Type) where
  | cell (value : α)
  | parts (members : List (Nested α))

namespace Nested

variable {α : Type}

mutual

/-- The lengths along the axes, if all parts agree on them. -/
def shape? : Nested α → Option (List Nat)
  | cell _ => some []
  | parts [] => some [0]
  | parts (member :: rest) =>
      match shape? member with
      | none => none
      | some lengths =>
          if haveShape lengths rest then some ((rest.length + 1) :: lengths) else none

def haveShape (lengths : List Nat) : List (Nested α) → Bool
  | [] => true
  | member :: rest => shape? member == some lengths && haveShape lengths rest

end

def greatestRank : Nat := 64

def isArray (nested : Nested α) : Bool :=
  match nested.shape? with
  | none => false
  | some lengths => decide (lengths.length ≤ greatestRank)

def checkArray (nested : Nested α) : Except Fault Unit :=
  if nested.isArray then .ok () else .error .ragged

mutual

def flat : Nested α → List α
  | cell value => [value]
  | parts members => flatAll members

def flatAll : List (Nested α) → List α
  | [] => []
  | member :: rest => flat member ++ flatAll rest

end

/-- The number of axes along the first parts. -/
def rank : Nested α → Nat
  | cell _ => 0
  | parts [] => 1
  | parts (member :: _) => rank member + 1

def value? : Nested α → Option α
  | cell value => some value
  | parts _ => none

def row? : Nested α → Option (List α)
  | cell _ => none
  | parts members => members.mapM value?

def rows? : Nested α → Option (List (List α))
  | cell _ => none
  | parts members => members.mapM row?

def ofRows (rows : List (List α)) : Nested α :=
  parts (rows.map fun row => parts (row.map cell))

end Nested

namespace Datum

mutual

/-- The nested sequence that a value is, with its members unread. -/
def nested : Datum → Nested Datum
  | list items => .parts (nestedAll items)
  | value => .cell value

def nestedAll : List Datum → List (Nested Datum)
  | [] => []
  | item :: rest => nested item :: nestedAll rest

end

/-- The double that a member of an array stands for; where there is no value it is undefined. -/
def toFloatOrUndefined : Datum → Except Fault Float
  | null => .ok (0.0 / 0.0)
  | value => value.toFloat

/-- The doubles of an array of values in their order.  The shape of the array is checked before its
members are read. -/
def toFloats (value : Datum) : Except Fault (List Float) := do
  value.nested.checkArray
  value.nested.flat.mapM toFloatOrUndefined

end Datum

end SimplexReplay
