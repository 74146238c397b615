import SimplexReplay.Program.Basic
import SimplexReplay.Tableau.Basic

/-!
# Basis and solution

A column is basic in a row when its reduced cost is zero and it is the unit column of that row, all
up to a tolerance.  When no basis was tracked, rows are given to basic columns, slack columns
first; a row without a basic column keeps the entry `-1`.

The objective cell of a tableau holds the value of a maximum, and the negated value of a minimum.
A basic decision variable has the right-hand side of its row as value, every other one is zero.
-/

namespace SimplexReplay

namespace Tableau

variable {α : Type} [Scalar α] {m n : Nat}

def nearOnes (tableau : Tableau α m n) (column : Fin (n + 1)) (tolerance : α) : List (Fin m) :=
  (List.finRange m).filter fun row =>
    Scalar.magnitude (tableau.body row column - 1) ≤ tolerance

/-- Whether some other constraint row has an entry of size above the tolerance. -/
def disturbed (tableau : Tableau α m n) (column : Fin (n + 1)) (tolerance : α) (row : Fin m) :
    Bool :=
  (List.finRange m).any fun other =>
    decide (other ≠ row) && decide (tolerance < Scalar.magnitude (tableau.body other column))

def basicRow (tableau : Tableau α m n) (column : Fin (n + 1)) (tolerance : α) : Option (Fin m) :=
  if tolerance < Scalar.magnitude (tableau.objectiveEntry column) then none
  else
    match tableau.nearOnes column tolerance with
    | [row] => if tableau.disturbed column tolerance row then none else some row
    | _ => none

/-- The columns in the order in which rows are given away: the last `m` columns, which belong to
the slacks, then the columns before them. -/
def scanOrder (m n : Nat) : List Int :=
  (List.range m).map (fun offset => Int.ofNat n - Int.ofNat m + Int.ofNat offset) ++
    (List.range (n - m)).map Int.ofNat

/-- Gives the row in which a column is basic to that column, if the row is still free. -/
def claimRow (tableau : Tableau α m n) (tolerance : α) (basis : Vector Int m) (column : Int) :
    Except Fault (Vector Int m) :=
  match signedPosition? (n + 1) column with
  | none => .error .outOfRange
  | some position =>
      match tableau.basicRow position tolerance with
      | none => .ok basis
      | some row => .ok (if basis[row] < 0 then basis.set row column else basis)

/-- The basis read off a tableau.  With fewer columns than rows the scan meets columns counted
from the end, and fails if there are none. -/
def readBasis (tableau : Tableau α m n) (tolerance : α) : Except Fault (Vector Int m) :=
  (scanOrder m n).foldlM (tableau.claimRow tolerance) (Vector.replicate m (-1))

end Tableau

structure Solution (α : Type) where
  values : List α
  cost : α
deriving DecidableEq, Repr

namespace Tableau

variable {α : Type} [Scalar α] {m n : Nat}

/-- The value of the cost; adding zero leaves no negative zero. -/
def costValue (tableau : Tableau α m n) (objective : Objective) : α :=
  match objective with
  | .maximize => tableau.objectiveCell + 0
  | .minimize => -tableau.objectiveCell + 0

/-- Gives the right-hand side of a row to its basic variable, if that is a decision variable. -/
def settle (tableau : Tableau α m n) (variableCount : Nat) (values : List α)
    (assignment : Int × Nat) : Except Fault (List α) :=
  let (column, row) := assignment
  if 0 ≤ column ∧ column < variableCount then
    if inside : row < m then .ok (values.set column.toNat (tableau.rhs ⟨row, inside⟩))
    else .error .outOfRange
  else
    .ok values

def decisionValues (tableau : Tableau α m n) (variableCount : Nat) (basis : List Int) :
    Except Fault (List α) :=
  basis.zipIdx.foldlM (tableau.settle variableCount) (List.replicate variableCount 0)

def solution (tableau : Tableau α m n) (variableCount : Nat) (objective : Objective)
    (basis : List Int) : Except Fault (Solution α) := do
  let values ← tableau.decisionValues variableCount basis
  return ⟨values, tableau.costValue objective⟩

/-- The solution that a tableau shows when no basis was tracked. -/
def readSolution (tableau : Tableau α m n) (variableCount : Nat) (objective : Objective)
    (tolerance : α) : Except Fault (Solution α) := do
  let basis ← tableau.readBasis tolerance
  tableau.solution variableCount objective basis.toList

end Tableau

end SimplexReplay
