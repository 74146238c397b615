import SimplexReplay.Fault

/-!
# Linear programs

A program maximizes or minimizes a linear cost over non-negative variables, subject to linear
constraints.  A program may be held while it is being edited, so the type allows constraints with
the wrong number of coefficients; `Program.WellShaped` tells the programs that a tableau or a dual
can be built from.

A tableau is pivoted over any type with the four operations, an order and a test for equality.
Two instances of `Scalar` matter: doubles, which round after every operation and have infinities
and NaN, and rational numbers, over which every step is exact.
-/

namespace SimplexReplay

/-- Numbers that a tableau can hold, with their absolute value and tests for undefined results, for
ordinary numbers and for the order. -/
class Scalar (α : Type) extends
    Zero α, One α, Add α, Sub α, Mul α, Div α, Neg α, LT α, LE α, BEq α where
  magnitude : α → α
  isNaN : α → Bool
  isFinite : α → Bool
  decideLT : DecidableRel (fun first second : α => first < second)
  decideLE : DecidableRel (fun first second : α => first ≤ second)

namespace Scalar

instance {α : Type} [Scalar α] (first second : α) : Decidable (first < second) :=
  decideLT first second

instance {α : Type} [Scalar α] (first second : α) : Decidable (first ≤ second) :=
  decideLE first second

end Scalar

/-- Doubles: every operation rounds once, to nearest with ties to even. -/
instance : Scalar Float where
  zero := 0.0
  one := 1.0
  magnitude := Float.abs
  isNaN := Float.isNaN
  isFinite := Float.isFinite
  decideLT := fun first second => inferInstanceAs (Decidable (first < second))
  decideLE := fun first second => inferInstanceAs (Decidable (first ≤ second))

/-- Rational numbers: nothing is rounded, and every value is finite. -/
instance : Scalar Rat where
  zero := 0
  one := 1
  magnitude value := if value < 0 then -value else value
  isNaN _ := false
  isFinite _ := true
  decideLT := fun first second => inferInstanceAs (Decidable (first < second))
  decideLE := fun first second => inferInstanceAs (Decidable (first ≤ second))

inductive Objective where
  | maximize
  | minimize
deriving DecidableEq, Repr

namespace Objective

def word : Objective → String
  | maximize => "max"
  | minimize => "min"

def ofWord? (word : String) : Option Objective :=
  if word = "max" then some maximize
  else if word = "min" then some minimize
  else none

/-- The objective that a word names where every word but one asks for a minimum. -/
def ofWordLoosely (word : String) : Objective :=
  if word = "max" then maximize else minimize

def opposite : Objective → Objective
  | maximize => minimize
  | minimize => maximize

end Objective

inductive Relation where
  | atMost
  | equal
  | atLeast
deriving DecidableEq, Repr

namespace Relation

def sign : Relation → String
  | atMost => "<="
  | equal => "="
  | atLeast => ">="

def ofSign? (sign : String) : Option Relation :=
  if sign = "<=" then some atMost
  else if sign = "=" then some equal
  else if sign = ">=" then some atLeast
  else none

end Relation

/-- A linear constraint on the sum of the variables with these coefficients. -/
structure Constraint (α : Type) where
  coefficients : List α
  relation : Relation
  bound : α
deriving BEq, DecidableEq, Repr

/-- A linear program over non-negative variables. -/
structure Program (α : Type) where
  objective : Objective
  costs : List α
  constraints : List (Constraint α)
deriving BEq, DecidableEq, Repr

namespace Program

variable {α : Type}

def variableCount (program : Program α) : Nat :=
  program.costs.length

def constraintCount (program : Program α) : Nat :=
  program.constraints.length

/-- The number of columns before the right-hand side: decision variables, then slacks. -/
def columnCount (program : Program α) : Nat :=
  program.variableCount + program.constraintCount

/-- A program is well shaped when it has a variable and a constraint, and each constraint has one
coefficient per variable. -/
def WellShaped (program : Program α) : Prop :=
  0 < program.variableCount ∧ 0 < program.constraintCount ∧
    ∀ constraint ∈ program.constraints, constraint.coefficients.length = program.variableCount

instance (program : Program α) : Decidable program.WellShaped :=
  inferInstanceAs (Decidable (_ ∧ _ ∧ _))

/-- Looks for the first constraint, counted from `position`, with the wrong number of
coefficients. -/
def checkLengths (expected : Nat) : (position : Nat) → List (Constraint α) → Except Fault Unit
  | _, [] => .ok ()
  | position, constraint :: rest =>
      if constraint.coefficients.length = expected then
        checkLengths expected (position + 1) rest
      else
        .error (.coefficientCount position constraint.coefficients.length expected)

/-- Refuses programs that are not well shaped, naming the first reason. -/
def checkShape (program : Program α) : Except Fault Unit :=
  if program.variableCount = 0 then .error .noVariables
  else if program.constraintCount = 0 then .error .noConstraints
  else checkLengths program.variableCount 1 program.constraints

/-- Names made of a letter and the positions counted from one. -/
def numberedNames (letter : String) (count : Nat) : List String :=
  (List.range count).map fun position => letter ++ toString (position + 1)

def columnNames (program : Program α) : List String :=
  numberedNames "x" program.variableCount ++ numberedNames "s" program.constraintCount

/-- The basis in which every slack is basic in its own row. -/
def slackBasis (program : Program α) : List Int :=
  (List.range program.constraintCount).map fun (row : Nat) =>
    Int.ofNat (program.variableCount + row)

def isRectangular (program : Program α) : Bool :=
  match program.constraints with
  | [] => true
  | first :: rest =>
      rest.all fun constraint => constraint.coefficients.length == first.coefficients.length

def matrix (program : Program α) : Except Fault (List (List α)) :=
  if program.isRectangular then .ok (program.constraints.map (·.coefficients))
  else .error .ragged

/-- The notice about a constraint whose relation the tableau does not keep. -/
def relaxationNotice (position : Nat) (relation : Relation) : String :=
  s!"Constraint {position} uses '" ++ relation.sign ++
    "' and is treated as '<=' in the tableau."

/-- The notices about all constraints that are no upper bounds, in their order. -/
def relaxationNotices (program : Program α) : List String :=
  program.constraints.zipIdx.filterMap fun (constraint, row) =>
    if constraint.relation = .atMost then none
    else some (relaxationNotice (row + 1) constraint.relation)

end Program

end SimplexReplay
