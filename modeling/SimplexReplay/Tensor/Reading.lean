import SimplexReplay.Fault
import SimplexReplay.Spelling
import SimplexReplay.Table
import SimplexReplay.Tableau.Basis
import SimplexReplay.Tableau.Pivot
import SimplexReplay.Tensor.Index

/-!
# Tensors in the place of a tableau

The first axis of a tensor is taken for the rows of a tableau and the second one for its columns.
With fewer axes, or without columns, most of what a tableau has is not found.  With more axes there
are tensors in the places of the numbers; a tensor with one member can stand for a number where
numbers are compared, but not where a number is written or handed on.

A pivot divides what is looked up in a row by what is looked up in the row and a column, and then
goes through the rows from the first to the last.  A row that does not count as the row of the
pivot loses a multiple of the divided row.  Every change is made at once, so that a pivot that
fails on its way leaves the changes before the fault.
-/

namespace SimplexReplay

namespace Tensor

/-- The length of an axis that a tensor must have. -/
def axisLength {α : Type} (tensor : Tensor α) (axis : Nat) : Except Fault Nat :=
  match tensor.shape[axis]? with
  | some length => .ok length
  | none => .error .outOfRange

def reducedCosts (tensor : Tensor Float) : Except Fault (Tensor Float) :=
  tensor.get [.position 0, .beforeLast]

def improves (tolerance value : Float) : Bool :=
  value < -tolerance

def canImprove (tensor : Tensor Float) (tolerance : Float) : Except Fault Bool := do
  let costs ← tensor.reducedCosts
  return costs.members.any (improves tolerance)

/-- The position that a rule chooses: that of a column, or that of a number in the objective row. -/
def entering (tensor : Tensor Float) (tolerance : Float) (rule : PivotRule) :
    Except Fault (Option Nat) := do
  let costs ← tensor.reducedCosts
  let numbers := costs.members
  return match costs.firstAxis.findIdx? fun column => column.any (improves tolerance), rule with
    | none, _ => none
    | some first, .bland => some first
    | some _, .dantzig => (leastPosition fun position => numbers.get position).map Fin.val

/-- The row, counted with the objective row, in which the only numbers of a column are one and
otherwise zero up to a tolerance. -/
def unitRow (tolerance : Float) (column : List Float) : Option Nat :=
  let rows := column.zipIdx
  match rows.filter fun (value, _) => (value - 1.0).abs ≤ tolerance with
  | [(_, one)] =>
      if rows.any fun (value, row) => row ≠ one && tolerance < value.abs then none
      else some (one + 1)
  | _ => none

/-- The row, counted with the objective row, in which what an index looks up is basic. -/
def basicRow (tensor : Tensor Float) (index : Index) (tolerance : Float) :
    Except Fault (Option Nat) := do
  let top ← tensor.get [.position 0, index]
  let cost ← top.only
  if tolerance < cost.abs then
    return none
  let column ← tensor.get [.afterFirst, index]
  return unitRow tolerance column.members

/-- The columns in the order in which rows are given away, for a number of constraint rows and of
columns: the last columns, one for each row, then those before them. -/
def scanOrder (rowCount width : Nat) : List Int :=
  let columns : Int := (width : Int) - 1
  let free := columns - rowCount
  (List.range rowCount).map (fun (offset : Nat) => free + offset) ++
    (List.range free.toNat).map Int.ofNat

/-- Gives the row in which a column is basic to that column, if the row is still free. -/
def claimRow (tensor : Tensor Float) (tolerance : Float) (basis : List Int) (column : Int) :
    Except Fault (List Int) := do
  match ← tensor.basicRow (.position column) tolerance with
  | none => return basis
  | some row =>
      if basis.getD (row - 1) 0 < 0 then return basis.set (row - 1) column
      else return basis

def readBasis (tensor : Tensor Float) (tolerance : Float) : Except Fault (List Int) := do
  let height ← tensor.axisLength 0
  let width ← tensor.axisLength 1
  (scanOrder (height - 1) width).foldlM (tensor.claimRow tolerance)
    (List.replicate (height - 1) (-1))

def objectiveCell (tensor : Tensor Float) : Except Fault Float := do
  let cell ← tensor.get [.position 0, .last]
  if cell.shape.isEmpty then cell.only else throw .wrongType

/-- The value of the cost; adding zero leaves no negative zero. -/
def costValue (tensor : Tensor Float) (objective : Objective) : Except Fault Float := do
  let cell ← tensor.objectiveCell
  return match objective with
    | .maximize => cell + 0.0
    | .minimize => -cell + 0.0

/-! ## Tables -/

/-- The cell of an entry.  A tensor in the place of a number has one only if its single member is
written without a look at its digits. -/
def cellText (entry : Tensor Float) : Except Fault String := do
  let value ← entry.only
  if entry.shape.isEmpty || !value.isFinite || value.abs < 1e-12 then
    return Table.cellText value
  else
    throw .wrongType

def rowCells (tensor : Tensor Float) (width row : Nat) : Except Fault (List String) := do
  let cells ← (List.range (width - 1)).mapM fun (column : Nat) => do
    let entry ← tensor.get [.position row, .position column]
    entry.cellText
  let bound ← tensor.get [.position row, .last]
  return cells ++ [← bound.cellText]

def tableLines (tensor : Tensor Float) (names : Names) (margin : Table.Margin) :
    Except Fault (List String) := do
  let height ← tensor.axisLength 0
  let width ← tensor.axisLength 1
  Table.build names margin (tensor.rowCells width 0)
    ((List.range (height - 1)).map fun row => tensor.rowCells width (row + 1))

end Tensor

/-- Row and column of a pivot as they were given, with what they look up. -/
structure PivotPlace where
  row : Datum
  column : Datum
  rowIndex : Index
  columnIndex : Index

namespace PivotPlace

/-- The place of a pivot that two values stand for. -/
def read (row column : Datum) : Except Fault PivotPlace := do
  let rowIndex ← Index.read row
  let columnIndex ← Index.read column
  return ⟨row, column, rowIndex, columnIndex⟩

/-- Whether a row, counted from zero, is the row of the pivot. -/
def isRow (place : PivotPlace) (row : Nat) : Bool :=
  match place.row with
  | .whole value => value = row
  | .truth value => row = if value then 1 else 0
  | .null | .real _ | .text _ | .list _ | .record _ => false

def refuseZero (place : PivotPlace) : Except Fault Unit := do
  let row ← place.row.spell
  let column ← place.column.spell
  throw (.zeroPivot row column)

end PivotPlace

namespace Tensor

def fitted {α : Type} : Option (Tensor α) → Except Fault (Tensor α)
  | some tensor => .ok tensor
  | none => .error .unequalShapes

/-- The tensor with the row of a pivot divided by its element. -/
def normalize (place : PivotPlace) (tensor : Tensor Float) : Except Fault (Tensor Float) := do
  let element ← tensor.get [place.rowIndex, place.columnIndex]
  if (← element.only) == 0.0 then
    place.refuseZero
  let places ← Index.places [place.rowIndex, .all] tensor.shape
  let divided ← fitted ((tensor.collect places).updateWith? (· / ·) element)
  return tensor.put places divided

/-- The tensor with a row less a multiple of the row of a pivot. -/
def reduceRow (place : PivotPlace) (row : Nat) (tensor : Tensor Float) :
    Except Fault (Tensor Float) := do
  let places ← Index.places [.position row, .all] tensor.shape
  let factor ← tensor.get [.position row, place.columnIndex]
  let divided ← tensor.get [place.rowIndex, .all]
  let multiple ← fitted (factor.zipWith? (· * ·) divided)
  let reduced ← fitted ((tensor.collect places).updateWith? (· - ·) multiple)
  return tensor.put places reduced

def pivot (tensor : Tensor Float) (place : PivotPlace) : Change (Tensor Float) :=
  let height := tensor.shape.headD 0
  let others := (List.range height).filter fun row => !place.isRow row
  .ofSteps tensor (normalize place :: others.map (reduceRow place))

end Tensor

end SimplexReplay
