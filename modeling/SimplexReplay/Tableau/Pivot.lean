import SimplexReplay.Tableau.Basic

/-!
# Choosing and making a pivot

A tableau can be improved when a reduced cost lies below the tolerance.  Bland's rule takes the
first such column; Dantzig's rule takes the column with the least reduced cost of all.

Only rows whose entry in the entering column exceeds the tolerance limit the step, and the row
with the least ratio leaves.  No row leaves if no ratio is an ordinary number; an undefined ratio
also keeps every row from leaving.

A pivot divides a row by its entry in the pivot column and subtracts multiples of the result from
the other rows, which clears the column elsewhere.  When the row is counted from the end, it is
not recognized as its own row: it is cleared as well, and rows below it lose a multiple of the
cleared row.
-/

namespace SimplexReplay

/-- How the entering column is chosen: the first improving column, or the one with the least reduced
cost. -/
inductive PivotRule where
  | bland
  | dantzig
deriving DecidableEq, Repr

namespace PivotRule

def name : PivotRule → String
  | bland => "bland"
  | dantzig => "dantzig"

def ofName? (name : String) : Option PivotRule :=
  if name = "bland" then some bland
  else if name = "dantzig" then some dantzig
  else none

/-- The rule that a name asks for where every name but one asks for Dantzig's rule. -/
def ofNameLoosely (name : String) : PivotRule :=
  if name = "bland" then bland else dantzig

end PivotRule

variable {α : Type} [Scalar α]

/-- The first member whose key is less than or not comparable with all other keys. -/
def firstLeast {ι : Type} (key : ι → α) : List ι → Option ι
  | [] => none
  | member :: rest =>
      match firstLeast key rest with
      | none => some member
      | some other => if key other < key member then some other else some member

/-- The position of the least value.  An undefined value counts as less than all others. -/
def leastPosition {size : Nat} (value : Fin size → α) : Option (Fin size) :=
  match (List.finRange size).find? fun position => Scalar.isNaN (value position) with
  | some position => some position
  | none => firstLeast value (List.finRange size)

namespace Tableau

variable {m n : Nat}

def improves (tableau : Tableau α m n) (tolerance : α) (column : Fin n) : Bool :=
  tableau.reducedCost column < -tolerance

def canImprove (tableau : Tableau α m n) (tolerance : α) : Bool :=
  (List.finRange n).any (tableau.improves tolerance)

def entering (tableau : Tableau α m n) (tolerance : α) : PivotRule → Option (Fin n)
  | .bland => (List.finRange n).find? (tableau.improves tolerance)
  | .dantzig =>
      if tableau.canImprove tolerance then leastPosition tableau.reducedCost else none

/-- The ratio of a row, or nothing if the row does not limit the step. -/
def ratio (tableau : Tableau α m n) (column : Fin (n + 1)) (tolerance : α) (row : Fin m) :
    Option α :=
  let coefficient := tableau.body row column
  if tolerance < coefficient then some (tableau.rhs row / coefficient) else none

def ratios (tableau : Tableau α m n) (column : Fin (n + 1)) (tolerance : α) :
    Vector (Option α) m :=
  Vector.ofFn (tableau.ratio column tolerance)

/-- The rows that limit the step, with their ratios. -/
def limitingRows (tableau : Tableau α m n) (column : Fin (n + 1)) (tolerance : α) :
    List (Fin m × α) :=
  (List.finRange m).filterMap fun row =>
    (tableau.ratio column tolerance row).map fun quotient => (row, quotient)

def leaving (tableau : Tableau α m n) (column : Fin (n + 1)) (tolerance : α) :
    Option (Fin m) :=
  let limits := tableau.limitingRows column tolerance
  if limits.any fun limit => Scalar.isNaN limit.2 then none
  else
    match firstLeast Prod.snd limits with
    | some (row, quotient) => if Scalar.isFinite quotient then some row else none
    | none => none

/-- The row that leaves the basis of a tableau with at least one constraint row. -/
def leavingRow (tableau : Tableau α m n) (column : Fin (n + 1)) (tolerance : α) :
    Except Fault (Option (Fin m)) :=
  if m = 0 then .error .noRatios else .ok (tableau.leaving column tolerance)

def normalizedRow (tableau : Tableau α m n) (row : Fin (m + 1)) (column : Fin (n + 1)) :
    Vector α (n + 1) :=
  Vector.ofFn fun position => tableau.entry row position / tableau.entry row column

/-- A row less the multiple of `scaled` that its entry in the pivot column asks for. -/
def reduceRow (tableau : Tableau α m n) (scaled : Vector α (n + 1)) (column : Fin (n + 1))
    (row : Fin (m + 1)) : Vector α (n + 1) :=
  Vector.ofFn fun position =>
    tableau.entry row position - tableau.entry row column * rowEntry scaled position

def pivot (tableau : Tableau α m n) (row : Fin (m + 1)) (column : Fin (n + 1)) :
    Tableau α m n :=
  let scaled := tableau.normalizedRow row column
  ⟨Vector.ofFn fun other => if other = row then scaled else tableau.reduceRow scaled column other⟩

theorem entry_pivot (tableau : Tableau α m n) (row other : Fin (m + 1))
    (column position : Fin (n + 1)) :
    (tableau.pivot row column).entry other position =
      if other = row then tableau.entry row position / tableau.entry row column
      else tableau.entry other position -
        tableau.entry other column * (tableau.entry row position / tableau.entry row column) := by
  by_cases same : other = row <;>
    simp [pivot, entry, reduceRow, normalizedRow, same]

/-- A row less its own multiple, as the row of a pivot counted from the end becomes. -/
def clearRow (scaled : Vector α (n + 1)) (column : Fin (n + 1)) : Vector α (n + 1) :=
  Vector.ofFn fun position =>
    rowEntry scaled position - rowEntry scaled column * rowEntry scaled position

/-- The tableau after a pivot whose row was counted from the end. -/
def pivotFromEnd (tableau : Tableau α m n) (row : Fin (m + 1)) (column : Fin (n + 1)) :
    Tableau α m n :=
  let scaled := tableau.normalizedRow row column
  let cleared := clearRow scaled column
  ⟨Vector.ofFn fun other =>
    if other < row then tableau.reduceRow scaled column other
    else if other = row then cleared
    else tableau.reduceRow cleared column other⟩

/-- The tableau after a pivot on an element other than zero. -/
def pivot? (tableau : Tableau α m n) (row : Fin (m + 1)) (column : Fin (n + 1)) :
    Except Fault (Tableau α m n) :=
  if tableau.entry row column == 0 then
    .error (.zeroPivot (toString row.val) (toString column.val))
  else .ok (tableau.pivot row column)

/-- The tableau after a pivot at signed positions. -/
def pivotAt (tableau : Tableau α m n) (row column : Int) : Except Fault (Tableau α m n) :=
  match signedPosition? (m + 1) row, signedPosition? (n + 1) column with
  | some place, some position =>
      if tableau.entry place position == 0 then
        .error (.zeroPivot (toString row) (toString column))
      else if row < 0 then .ok (tableau.pivotFromEnd place position)
      else .ok (tableau.pivot place position)
  | _, _ => .error .outOfRange

end Tableau

end SimplexReplay
