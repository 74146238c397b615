import SimplexReplay.Run.Step
import SimplexReplay.Spelling
import SimplexReplay.Tableau.Pivot

/-!
# The course of a run

A run looks at the tableau and either ends, because no column improves the cost or because a
column improves it without limit, or makes a pivot and goes on.  The number of pivots is capped;
the cap only matters when another pivot would be made.

A cap is a natural number in every solve; a run that is started by hand takes any value, and one
that cannot be compared with a number is only refused when the run needs a pivot.
-/

namespace SimplexReplay

/-- A limit on the number of pivots, and why no further pivot is made. -/
structure Cap where
  allowed : Nat
  fault : Fault
deriving DecidableEq, Repr

namespace Cap

def ofNat (count : Nat) : Cap :=
  ⟨count, .notConverged (toString count)⟩

/-- The number of pivots that stands for no limit. -/
def unlimited : Nat := Nat.pow 2 64

/-- The number of pivots below a double: those before the count has reached it. -/
def countBelow (value : Float) : Nat :=
  match Decimal.content value with
  | .finite binary =>
      if binary.negative then 0
      else (binary.numerator + binary.denominator - 1) / binary.denominator
  | .infinite negative => if negative then 0 else unlimited
  | .nan => unlimited

def read (value : Datum) : Cap :=
  let fault :=
    match value.spell with
    | .ok text => Fault.notConverged text
    | .error fault => fault
  match value with
  | .whole count => ⟨count.toNat, fault⟩
  | .truth isOne => ⟨if isOne then 1 else 0, fault⟩
  | .real limit => ⟨countBelow limit, fault⟩
  | .null | .text _ | .list _ | .record _ => ⟨0, .wrongType⟩

end Cap

/-- What a run does next: it finishes as no column improves the cost, or meets a column that
improves the cost and that no row limits, or lets a column enter for the basic column of a row. -/
inductive Choice (m n : Nat) where
  | finish
  | unlimited (column : Fin n)
  | pivot (row : Fin m) (column : Fin n)
deriving DecidableEq, Repr

/-- A tableau with its tracked basis, the basic column of each row. -/
structure Point (α : Type) (m n : Nat) where
  tableau : Tableau α m n
  basis : List Int
deriving DecidableEq, Repr

structure Setting (α : Type) where
  tolerance : α
  rule : PivotRule
  names : Names

/-- Why a run ended: it came to its end, it needed another pivot than the cap allows, or a name or a
row was missing. -/
inductive Ending where
  | reached (status : Status)
  | capped
  | broken (fault : Fault)
deriving DecidableEq, Repr

/-- The recorded steps of a run, tableau and basis at its end, the number of pivots, and why it
ended. -/
structure Course (α : Type) (m n : Nat) where
  steps : List (Step α m n)
  last : Point α m n
  pivots : Nat
  ending : Ending
deriving DecidableEq, Repr

variable {α : Type} {m n : Nat}

namespace Ending

def status (cap : Cap) : Ending → Except Fault Status
  | reached status => .ok status
  | capped => .error cap.fault
  | broken fault => .error fault

end Ending

def Setting.nameText (setting : Setting α) (position : Int) : Except Fault String := do
  let name ← setting.names.nameAt position
  name.spell

namespace Tableau

def choice [Scalar α] (tableau : Tableau α m n) (tolerance : α) (rule : PivotRule) :
    Except Fault (Choice m n) :=
  match tableau.entering tolerance rule with
  | none => .ok .finish
  | some column =>
      match tableau.leavingRow column.castSucc tolerance with
      | .error fault => .error fault
      | .ok none => .ok (.unlimited column)
      | .ok (some row) => .ok (.pivot row column)

end Tableau

namespace Point

def step (point : Point α m n) (iteration : Nat) (event : Event α m n) : Step α m n :=
  ⟨point.tableau, point.basis, iteration, event⟩

def basicColumn (point : Point α m n) (row : Nat) : Except Fault Int :=
  match point.basis[row]? with
  | some basic => .ok basic
  | none => .error .outOfRange

theorem basicColumn_eq_ok_iff {point : Point α m n} {row : Nat} {basic : Int} :
    point.basicColumn row = .ok basic ↔ point.basis[row]? = some basic := by
  unfold basicColumn
  cases point.basis[row]? <;> simp

/-- The exchange of a pivot, with the names of the two columns.  Both names are looked up before
one of them is spelled. -/
def exchange [Scalar α] (point : Point α m n) (setting : Setting α) (row : Fin m)
    (column : Fin n) : Except Fault (Exchange α m n) := do
  let enteringName ← setting.names.nameAt column.val
  let basic ← point.basicColumn row.val
  let leavingName ← setting.names.nameAt basic
  let entering ← enteringName.spell
  let leaving ← leavingName.spell
  return {
    row, column, basic, entering, leaving
    ratios := point.tableau.ratios column.castSucc setting.tolerance
    element := point.tableau.body row column.castSucc
    reducedCost := point.tableau.reducedCost column }

def pivot? [Scalar α] (point : Point α m n) (row : Fin m) (column : Fin n) :
    Except Fault (Point α m n) := do
  let tableau ← point.tableau.pivot? row.succ column.castSucc
  return ⟨tableau, point.basis.set row.val column.val⟩

def ends (point : Point α m n) (pivots : Nat) (steps : List (Step α m n)) (ending : Ending) :
    Course α m n :=
  ⟨steps, point, pivots, ending⟩

end Point

/-- The course of a run from a point, with a number of pivots still allowed and a number of pivots
already made. -/
def run [Scalar α] (setting : Setting α) :
    (allowed made : Nat) → Point α m n → Course α m n
  | allowed, made, point =>
      match point.tableau.choice setting.tolerance setting.rule with
      | .error fault => point.ends made [] (.broken fault)
      | .ok .finish => point.ends made [] (.reached .optimal)
      | .ok (.unlimited column) =>
          match setting.nameText column.val with
          | .error fault => point.ends made [] (.broken fault)
          | .ok entering =>
              let ratios := point.tableau.ratios column.castSucc setting.tolerance
              point.ends made [point.step (made + 1) (.unbounded column entering ratios)]
                (.reached .unbounded)
      | .ok (.pivot row column) =>
          match allowed with
          | 0 => point.ends made [] .capped
          | allowed + 1 =>
              match point.exchange setting row column with
              | .error fault => point.ends made [] (.broken fault)
              | .ok exchange =>
                  let before := point.step (made + 1) (.pivot exchange)
                  match point.pivot? row column with
                  | .error fault => point.ends made [before] (.broken fault)
                  | .ok next =>
                      let after := next.step (made + 1) (.afterPivot exchange)
                      let course := run setting allowed (made + 1) next
                      { course with steps := before :: after :: course.steps }

end SimplexReplay
