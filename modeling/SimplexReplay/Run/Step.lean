import SimplexReplay.Tableau.Basis
import SimplexReplay.Tableau.Pivot

/-!
# Steps of a run

A run records a step before its first choice, before and after every pivot, and at its end.  A step
keeps the tableau and the basis as they were when it was recorded; what else is shown with it
depends on the event that it records.
-/

namespace SimplexReplay

/-- How a run that came to its end ended. -/
inductive Status where
  | optimal
  | unbounded
deriving DecidableEq, Repr

namespace Status

def word : Status → String
  | optimal => "optimal"
  | unbounded => "unbounded"

end Status

/-- The exchange of the basic column of a row for an entering column, with the names of both, the
ratios that single out the row, and the element and the reduced cost of the column.  The leaving
column is counted from the end if it is negative. -/
structure Exchange (α : Type) (m n : Nat) where
  row : Fin m
  column : Fin n
  basic : Int
  entering : String
  leaving : String
  ratios : Vector (Option α) m
  element : α
  reducedCost : α
deriving DecidableEq, Repr

inductive Event (α : Type) (m n : Nat) where
  | initial
  | pivot (exchange : Exchange α m n)
  | afterPivot (exchange : Exchange α m n)
  | unbounded (column : Fin n) (entering : String) (ratios : Vector (Option α) m)
  | optimal (solution : Solution α)
deriving DecidableEq, Repr

/-- A recorded step, with tableau and basis as they were when it was recorded. -/
structure Step (α : Type) (m n : Nat) where
  tableau : Tableau α m n
  basis : List Int
  iteration : Nat
  event : Event α m n
deriving DecidableEq, Repr

variable {α : Type} {m n : Nat}

namespace Event

def kind : Event α m n → String
  | initial => "initial"
  | pivot _ => "pivot"
  | afterPivot _ => "after_pivot"
  | unbounded _ _ _ => "unbounded"
  | optimal _ => "optimal"

/-- The ratios that are shown with an event; an event without them shows none. -/
def ratios : Event α m n → List (Option α)
  | pivot exchange => exchange.ratios.toList
  | unbounded _ _ ratios => ratios.toList
  | initial | afterPivot _ | optimal _ => []

end Event

namespace Step

def description (step : Step α m n) : String :=
  match step.event with
  | .initial => "Initial tableau"
  | .pivot exchange =>
      let place := s!"pivot on row {exchange.row.val + 1}, column {exchange.column.val}"
      s!"Iteration {step.iteration}: " ++ place ++ " (" ++ exchange.entering ++ " enters, " ++
        exchange.leaving ++ " leaves)"
  | .afterPivot _ => s!"Iteration {step.iteration}: after pivot operation"
  | .unbounded _ entering _ =>
      "Unbounded: no positive entry in column " ++ entering ++
        ", objective can grow without limit"
  | .optimal _ => "Optimal solution found"

end Step

end SimplexReplay
