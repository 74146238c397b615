import SimplexReplay.Spelling
import SimplexReplay.Tableau.Basis

/-!
# Text tables

A tableau is shown as a table whose header names the columns and whose rows are labelled with
their basic columns.  The table is first a grid of cells; the header decides how many columns are
shown, every column is as wide as its widest cell, and cells are set flush right.  Rows are made
from top to bottom: in each row the label is found first, then the ratio, and then the label is
spelled before the entries are written.  The header is spelled last, column by column.  A table that
cannot be made is refused for the first reason in this order.
-/

namespace SimplexReplay

namespace Table

/-- The cell of an entry: what is not finite is written `inf`, what is tiny is written as zero. -/
def cellText (value : Float) : String :=
  if !value.isFinite then "inf"
  else if value.abs < 1e-12 then Decimal.shortText 0.0
  else Decimal.shortText value

/-- The cell of a ratio that is not finite, or of a row without a ratio. -/
def noRatio : String := "-"

def finiteRatio (value : Float) : String :=
  if value.isFinite then cellText value else noRatio

/-- The cell of the ratio of a constraint row; without ratios every row goes without. -/
def ratioText (ratios : List Float) (row : Nat) : Except Fault String :=
  if ratios.isEmpty then .ok noRatio
  else
    match ratios[row]? with
    | none => .error .outOfRange
    | some value => .ok (finiteRatio value)

def basisLabel (names : Names) (basis : List Int) (row : Nat) : Except Fault Datum :=
  match basis[row]? with
  | none => .error .outOfRange
  | some column => names.labelAt column

/-- The cells of the header, which are not spelled yet. -/
def headerCells (names : List Datum) : List Datum :=
  .text "row" :: names ++ [.text "rhs", .text "ratio"]

def objectiveCells (entries : Except Fault (List String)) : Except Fault (List String) := do
  let cells ← entries
  return "Rz" :: cells ++ [noRatio]

def constraintCells (row : Nat) (label : Except Fault Datum) (ratio : Except Fault String)
    (entries : Except Fault (List String)) : Except Fault (List String) := do
  let name ← label
  let quotient ← ratio
  let shown ← name.spell
  let cells ← entries
  return (s!"R{row + 1}(" ++ shown ++ ")") :: cells ++ [quotient]

/-- The labels before and the ratios behind the entries of the constraint rows. -/
structure Margin where
  label : Nat → Except Fault Datum
  ratio : Nat → Except Fault String

def bodyCells (margin : Margin) (rows : List (Except Fault (List String))) :
    Except Fault (List (List String)) :=
  rows.zipIdx.mapM fun (entries, row) =>
    constraintCells row (margin.label row) (margin.ratio row) entries

/-- The spelled header of the column at a position, in which every row must have a cell. -/
def columnHeader (rows : List (List String)) (cell : Datum) (position : Nat) :
    Except Fault String := do
  let shown ← cell.spell
  if rows.any fun cells => cells.length ≤ position then
    throw .outOfRange
  return shown

def columnWidth (grid : List (List String)) (position : Nat) : Nat :=
  (grid.map fun cells => (cells.getD position "").length).foldl max 0

def columnWidths (header : List String) (rows : List (List String)) : List Nat :=
  (List.range header.length).map (columnWidth (header :: rows))

/-- A cell set flush right. -/
def flushRight (width : Nat) (cell : String) : String :=
  String.ofList (List.replicate (width - cell.length) ' ') ++ cell

def rowLine (widths : List Nat) (cells : List String) : String :=
  " | ".intercalate (List.zipWith flushRight widths cells)

/-- The line between header and body. -/
def ruleLine (widths : List Nat) : String :=
  "-+-".intercalate (widths.map fun width => String.ofList (List.replicate width '-'))

def lines (header : List String) (rows : List (List String)) : List String :=
  let widths := columnWidths header rows
  rowLine widths header :: ruleLine widths :: rows.map (rowLine widths)

/-- The lines of the table with the given names, from the entries of the objective row and of the
constraint rows. -/
def build (names : Names) (margin : Margin) (objective : Except Fault (List String))
    (constraints : List (Except Fault (List String))) : Except Fault (List String) := do
  let given ← names.members
  let top ← objectiveCells objective
  let body ← bodyCells margin constraints
  let rows := top :: body
  let header ← (headerCells given).zipIdx.mapM fun (cell, position) =>
    columnHeader rows cell position
  return lines header (rows.map (List.take header.length))

def text (lines : List String) : String :=
  "\n".intercalate lines

end Table

namespace Tableau

variable {m n : Nat}

def tableLines (tableau : Tableau Float m n) (names : Names) (margin : Table.Margin) :
    Except Fault (List String) :=
  match tableau.toLists with
  | [] => .ok []
  | objective :: constraints =>
      Table.build names margin (.ok (objective.map Table.cellText))
        (constraints.map fun entries => .ok (entries.map Table.cellText))

/-- The basis to label the rows with: the tracked one, or else one read off the tableau. -/
def shownBasis (tableau : Tableau Float m n) (basis : Option (List Int)) (tolerance : Float) :
    Except Fault (List Int) :=
  match basis with
  | some columns => .ok columns
  | none => (tableau.readBasis tolerance).map Vector.toList

def table (tableau : Tableau Float m n) (names : Names) (basis : Option (List Int))
    (ratios : List Float) (tolerance : Float) : Except Fault String := do
  let columns ← tableau.shownBasis basis tolerance
  let lines ← tableau.tableLines names
    ⟨Table.basisLabel names columns, Table.ratioText ratios⟩
  return Table.text lines

end Tableau

end SimplexReplay
