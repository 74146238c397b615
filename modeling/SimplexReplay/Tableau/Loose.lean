import SimplexReplay.Entry.Basic
import SimplexReplay.Tableau.Pivot
import SimplexReplay.Tensor.Reading

/-!
# Arrays in the place of a tableau

A history and a session ask any array what a tableau is asked, at positions that are given by any
value.  An array that holds a tableau answers as that tableau, and every other one as a tensor.
-/

namespace SimplexReplay

namespace Snapshot

def tensor (snapshot : Snapshot) : Tensor Float :=
  ⟨snapshot.shape?.getD [], snapshot.flat⟩

def canImprove (snapshot : Snapshot) (tolerance : Float) : Except Fault Bool :=
  match snapshot.tableau? with
  | some sized => .ok (sized.tableau.canImprove tolerance)
  | none => snapshot.tensor.canImprove tolerance

def entering (snapshot : Snapshot) (tolerance : Float) (rule : PivotRule) :
    Except Fault (Option Nat) :=
  match snapshot.tableau? with
  | some sized => .ok ((sized.tableau.entering tolerance rule).map Fin.val)
  | none => snapshot.tensor.entering tolerance rule

def costValue (snapshot : Snapshot) (objective : Objective) : Except Fault Float :=
  match snapshot.tableau? with
  | some sized => .ok (sized.tableau.costValue objective)
  | none => snapshot.tensor.costValue objective

/-! ## Columns -/

/-- Refuses arrays that have no first axis, or no row along it. -/
def checkRows (snapshot : Snapshot) : Except Fault Unit := do
  if (← snapshot.tensor.axisLength 0) = 0 then
    throw .noObjectiveRow

/-- The answer of a tableau about the column that a value stands for.  Ratios are only found for a
single column of a tableau. -/
def askColumn {β : Type} (snapshot : Snapshot) (column : Datum)
    (ask : {m n : Nat} → Tableau Float m n → Fin (n + 1) → Except Fault β) : Except Fault β := do
  snapshot.checkRows
  match ← Index.read column, snapshot.tableau? with
  | .position value, some sized =>
      match signedPosition? (sized.columnCount + 1) value with
      | some position => ask sized.tableau position
      | none => throw .outOfRange
  | _, _ => throw .outOfRange

def ratios (snapshot : Snapshot) (column : Datum) (tolerance : Float) :
    Except Fault (List (Option Float)) :=
  snapshot.askColumn column fun tableau position =>
    .ok (tableau.ratios position tolerance).toList

/-- The row, counted with the objective row, that leaves for a column. -/
def leavingRow (snapshot : Snapshot) (column : Datum) (tolerance : Float) :
    Except Fault (Option Nat) :=
  snapshot.askColumn column fun tableau position =>
    (tableau.leavingRow position tolerance).map fun row => row.map fun found => found.val + 1

/-- The row, counted with the objective row, in which a column is basic. -/
def basicRow (snapshot : Snapshot) (column : Datum) (tolerance : Float) :
    Except Fault (Option Nat) := do
  match ← Index.read column, snapshot.tableau? with
  | .position value, some sized =>
      match signedPosition? (sized.columnCount + 1) value with
      | some position =>
          return (sized.tableau.basicRow position tolerance).map fun row => row.val + 1
      | none => throw .outOfRange
  | index, _ => snapshot.tensor.basicRow index tolerance

/-! ## Pivots -/

def pivotTableau (snapshot : Snapshot) (sized : SizedTableau Float) (row column : Int) :
    Change Snapshot :=
  match sized.tableau.pivotAt row column with
  | .ok next => ⟨ofTableau next, none⟩
  | .error fault => ⟨snapshot, some fault⟩

def pivotTensor (snapshot : Snapshot) (place : PivotPlace) : Change Snapshot :=
  let change := snapshot.tensor.pivot place
  ⟨change.value.toNested, change.fault⟩

def pivot (snapshot : Snapshot) (row column : Datum) : Change Snapshot :=
  match PivotPlace.read row column with
  | .error fault => ⟨snapshot, some fault⟩
  | .ok place =>
      match place.rowIndex, place.columnIndex, snapshot.tableau? with
      | .position rowValue, .position columnValue, some sized =>
          snapshot.pivotTableau sized rowValue columnValue
      | _, _, _ => snapshot.pivotTensor place

/-! ## Solutions -/

def readBasis (snapshot : Snapshot) (tolerance : Float) : Except Fault (List Int) :=
  match snapshot.tableau? with
  | some sized => (sized.tableau.readBasis tolerance).map Vector.toList
  | none => snapshot.tensor.readBasis tolerance

def whole? : Datum → Option Int
  | .whole value => some value
  | _ => none

/-- Whether a tensor with the given lengths can be put into all places of a list, or into none of
them. -/
def fillsList (isFilled : Bool) (count : Nat) (shape : List Nat) : Bool :=
  let lengths := shape.take (shape.length - 2) |>.dropWhile (· == 1)
  let target := [if isFilled then 1 else 0, count]
  Tensor.joinShape? (lengths ++ shape.drop (shape.length - 2)) target == some target

/-- Gives the right-hand side of a row to the decision variable that a value stands for.  A truth
value stands for all of them or for none. -/
def settle (snapshot : Snapshot) (variableCount : Nat) (values : List Float)
    (assignment : Datum × Nat) : Except Fault (List Float) := do
  let (column, row) := assignment
  let bound : Except Fault (Tensor Float) :=
    snapshot.tensor.get [.position (row + 1), .last]
  match column with
  | .whole position =>
      if 0 ≤ position ∧ position < variableCount then
        let found ← bound
        if !found.shape.isEmpty then
          throw .severalNumbers
        return values.set position.toNat (← found.only)
      else
        return values
  | .truth isFilled =>
      if (if isFilled then 1 else 0) < variableCount then
        let found ← bound
        if !fillsList isFilled variableCount found.shape then
          throw .unequalShapes
        return if isFilled then values.map fun value => found.members.headD value else values
      else
        return values
  | .real position =>
      if 0.0 ≤ position && position < Float.ofNat variableCount then throw .outOfRange
      else return values
  | .null | .text _ | .list _ | .record _ => throw .wrongType

/-- The solution that an array shows for a program and the columns that values stand for. -/
def solutionOf (snapshot : Snapshot) (program : Program Float) (columns : List Datum) :
    Except Fault (Solution Float) :=
  match snapshot.tableau?, columns.mapM whole? with
  | some sized, some basis =>
      sized.tableau.solution program.variableCount program.objective basis
  | _, _ => do
      let values ← columns.zipIdx.foldlM (snapshot.settle program.variableCount)
        (List.replicate program.variableCount 0.0)
      return ⟨values, ← snapshot.costValue program.objective⟩

/-- The solution that an array shows for the program and the basis that are given; without a basis,
one is read off the array. -/
def solution (snapshot : Snapshot) (program : Option (Program Float)) (basis : Datum)
    (tolerance : Float) : Except Fault (Solution Float) := do
  let readColumns ←
    match basis with
    | .null => (snapshot.readBasis tolerance).map some
    | _ => pure none
  match program with
  | none => throw .missingProgram
  | some shape =>
      let columns ←
        match readColumns with
        | some found => pure (found.map Datum.whole)
        | none => basis.members
      snapshot.solutionOf shape columns

/-! ## Tables -/

/-- The member of a sequence at a position, where any value can stand in place of the sequence. -/
def memberAt (value : Datum) (position : Nat) : Except Fault Datum :=
  match value with
  | .list items => if let some item := items[position]? then .ok item else .error .outOfRange
  | .text chars =>
      if let some char := chars.toList[position]? then .ok (.text (String.ofList [char]))
      else .error .outOfRange
  | .record _ => .error .missingField
  | .null | .truth _ | .whole _ | .real _ => .error .wrongType

/-- The labels of the constraint rows for a basis that is given by any value. -/
def givenLabel (names : Names) (basis : Datum) (row : Nat) : Except Fault Datum := do
  names.label (← memberAt basis row)

/-- The labels of the constraint rows; without a basis, one is read off the array. -/
def labels (snapshot : Snapshot) (names : Names) (basis : Datum) (tolerance : Float) :
    Except Fault (Nat → Except Fault Datum) :=
  match basis with
  | .null => (snapshot.readBasis tolerance).map (Table.basisLabel names)
  | given => .ok (givenLabel names given)

def tableLines (snapshot : Snapshot) (names : Names) (margin : Table.Margin) :
    Except Fault (List String) :=
  match snapshot.tableau? with
  | some sized => sized.tableau.tableLines names margin
  | none => snapshot.tensor.tableLines names margin

def table (snapshot : Snapshot) (names : Names) (basis : Datum)
    (ratio : Nat → Except Fault String) (tolerance : Float) : Except Fault String := do
  let label ← snapshot.labels names basis tolerance
  let lines ← snapshot.tableLines names ⟨label, ratio⟩
  return Table.text lines

/-- The cell of a ratio that is nested within others, where there must be a single number.  One that
is not finite is not written; how a finite one is written depends on where it is nested. -/
def nestedRatioText (finite : Float → Except Fault String) (ratio : Snapshot) :
    Except Fault String := do
  ratio.checkArray
  let value ← ratio.tensor.only
  if value.isFinite then finite value else return Table.noRatio

/-- The cell of the ratio of a row where ratios are any nested sequence. -/
def ratioText (finite : Float → Except Fault String) (ratios : Snapshot) (row : Nat) :
    Except Fault String :=
  match ratios with
  | .cell _ => .error .wrongType
  | .parts [] => .ok Table.noRatio
  | .parts members =>
      match members[row]? with
      | none => .error .outOfRange
      | some (.cell value) => .ok (Table.finiteRatio value)
      | some ratio => nestedRatioText finite ratio

/-- The cell of a finite number that is nested in an array of ratios; only a tiny one is written
without a look at its digits. -/
def arrayRatio (value : Float) : Except Fault String :=
  if value.abs < 1e-12 then .ok (Table.cellText value) else .error .wrongType

/-- The cell of a finite number that is nested in a sequence of ratios: it has none. -/
def sequenceRatio (_ : Float) : Except Fault String :=
  .error .wrongType

end Snapshot

end SimplexReplay
