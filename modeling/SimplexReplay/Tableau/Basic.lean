import SimplexReplay.Fault
import SimplexReplay.Position
import SimplexReplay.Program.Basic

/-!
# Tableaus

A tableau has an objective row above `m` constraint rows, and `n` columns before the right-hand
side.  Rows are stored as vectors, so that an entry is computed once; every operation is known
through `Tableau.entry`.

In the initial tableau of a program every constraint gets a slack, whatever its relation, and the
slacks form the first basis.  A maximum is treated as the minimum of the negated cost, so that a
negative reduced cost always marks an improving column.
-/

namespace SimplexReplay

/-- A simplex tableau with `m` constraint rows and `n` columns before the right-hand side. -/
structure Tableau (α : Type) (m n : Nat) where
  rows : Vector (Vector α (n + 1)) (m + 1)
deriving DecidableEq, Repr

namespace Tableau

variable {α : Type} {m n : Nat}

def rowEntry (row : Vector α (n + 1)) (column : Fin (n + 1)) : α :=
  row[column]

@[simp]
theorem rowEntry_ofFn (entries : Fin (n + 1) → α) (column : Fin (n + 1)) :
    rowEntry (Vector.ofFn entries) column = entries column := by
  simp [rowEntry]

/-- The entry of a row and a column; row zero is the objective row, the last column the
right-hand side. -/
def entry (tableau : Tableau α m n) (row : Fin (m + 1)) (column : Fin (n + 1)) : α :=
  rowEntry tableau.rows[row] column

def ofEntries (entries : Fin (m + 1) → Fin (n + 1) → α) : Tableau α m n where
  rows := Vector.ofFn fun row => Vector.ofFn fun column => entries row column

@[simp]
theorem entry_ofEntries (entries : Fin (m + 1) → Fin (n + 1) → α)
    (row : Fin (m + 1)) (column : Fin (n + 1)) :
    (ofEntries entries).entry row column = entries row column := by
  simp [ofEntries, entry]

/-- Two tableaus with the same entries are equal. -/
theorem ext_entry {first second : Tableau α m n}
    (entriesEq : ∀ row column, first.entry row column = second.entry row column) :
    first = second := by
  cases first with
  | mk firstRows =>
      cases second with
      | mk secondRows =>
          congr
          apply Vector.ext
          intro row rowLt
          apply Vector.ext
          intro column columnLt
          exact entriesEq ⟨row, rowLt⟩ ⟨column, columnLt⟩

def objectiveEntry (tableau : Tableau α m n) (column : Fin (n + 1)) : α :=
  tableau.entry 0 column

def reducedCost (tableau : Tableau α m n) (column : Fin n) : α :=
  tableau.objectiveEntry column.castSucc

def body (tableau : Tableau α m n) (row : Fin m) (column : Fin (n + 1)) : α :=
  tableau.entry row.succ column

def rhs (tableau : Tableau α m n) (row : Fin m) : α :=
  tableau.body row (Fin.last n)

/-- The right-hand side of the objective row. -/
def objectiveCell (tableau : Tableau α m n) : α :=
  tableau.objectiveEntry (Fin.last n)

def toLists (tableau : Tableau α m n) : List (List α) :=
  tableau.rows.toList.map Vector.toList

end Tableau

/-- A tableau whose size is part of the value. -/
structure SizedTableau (α : Type) where
  rowCount : Nat
  columnCount : Nat
  tableau : Tableau α rowCount columnCount

namespace SizedTableau

variable {α : Type}

/-- The rows as vectors of one length, if they all have it. -/
def rowVectors? (length : Nat) : List (List α) → Option (List (Vector α length))
  | [] => some []
  | row :: rest =>
      if lengthEq : row.length = length then
        (rowVectors? length rest).map (⟨row.toArray, by simpa using lengthEq⟩ :: ·)
      else
        none

/-- A tableau from its rows: there must be a row and a column, and the rows must have one
length. -/
def ofLists (rows : List (List α)) : Except Fault (SizedTableau α) :=
  match rows with
  | [] => .error .outOfRange
  | first :: rest =>
      if (first :: rest).any fun row => row.length ≠ first.length then .error .ragged
      else
        match first.length with
        | 0 => .error .outOfRange
        | columnCount + 1 =>
            match rowVectors? (columnCount + 1) (first :: rest) with
            | none => .error .ragged
            | some [] => .error .outOfRange
            | some (top :: others) =>
                .ok ⟨others.length, columnCount, ⟨⟨(top :: others).toArray, by simp⟩⟩⟩

end SizedTableau

variable {α : Type} [Scalar α]

/-- The costs as they stand in the objective row. -/
def reducedCosts (objective : Objective) (costs : List α) : List α :=
  match objective with
  | .maximize => costs.map (-·)
  | .minimize => costs

namespace Program

def constraintEntry (program : Program α) (row column : Nat) : α :=
  match program.constraints[row]? with
  | none => 0
  | some constraint =>
      if column < program.variableCount then constraint.coefficients.getD column 0
      else if column < program.columnCount then
        if column - program.variableCount = row then 1 else 0
      else constraint.bound

def objectiveEntry (program : Program α) (column : Nat) : α :=
  (reducedCosts program.objective program.costs).getD column 0

def initialTableau (program : Program α) :
    Tableau α program.constraintCount program.columnCount :=
  Tableau.ofEntries fun row column =>
    Fin.cases (program.objectiveEntry column) (fun line => program.constraintEntry line column) row

/-- The initial tableau of a well-shaped program. -/
def tableau (program : Program α) :
    Except Fault (Tableau α program.constraintCount program.columnCount) := do
  program.checkShape
  return program.initialTableau

end Program

end SimplexReplay
