/-!
# Faults

Everything that can go wrong, one constructor per cause.  `Fault.message` is the only place where
the wording of a fault is decided; faults that come from a malformed value carry no wording.

A change goes through steps, each of which starts from the value that the one before it has left.
The first step that fails ends the change, which keeps what was done before.
-/

namespace SimplexReplay

/-- Why an operation was refused or stopped.  The position of a constraint is counted from one; a
cap and the place of a pivot are given as they are written.  A tolerance is oversized if it is an
integer of more than 64 bits, and a numeral is too long if it has more digits than can be
written. -/
inductive Fault where
  | noVariables
  | noConstraints
  | coefficientCount (position found expected : Nat)
  | notConverged (cap : String)
  | zeroPivot (row column : String)
  | unknownSense
  | unknownObjective
  | unequalLengths
  | badTolerance
  | oversizedTolerance
  | badPivotRule
  | badIterationCap
  | badReportPath
  | historyClosed
  | nothingToShow
  | unreadableNumber
  | numberTooLarge
  | numeralTooLong
  | wrongType
  | ragged
  | severalNumbers
  | unequalShapes
  | noRatios
  | noObjectiveRow
  | zeroStride
  | readOnly
  | frozenField
  | outOfRange
  | unknownExample
  | missingField
  | missingProgram
  | inputEnded
  | cancelled
deriving DecidableEq, Repr

namespace Fault

def message : Fault → Option String
  | noVariables => some "LP needs at least one decision variable."
  | noConstraints => some "LP needs at least one constraint."
  | coefficientCount position found expected =>
      some s!"Constraint {position} has {found} coefficients, expected {expected}."
  | notConverged cap => some ("Simplex did not converge within " ++ cap ++ " pivots.")
  | zeroPivot row column => some ("Pivot element at (" ++ row ++ ", " ++ column ++ ") is zero.")
  | unknownSense => some "sense entries must be <=, >=, ="
  | unknownObjective => some "objective must be 'max' or 'min'"
  | unequalLengths => some "A, b and sense must have one entry per constraint"
  | badTolerance => some "opts['tol'] must be a non-negative finite number."
  | badPivotRule => some "opts['pivot_rule'] must be 'dantzig' or 'bland'."
  | badIterationCap => some "opts['max_iter'] must be None or a non-negative integer."
  | badReportPath =>
      some "opts['report_pdf_path'] must be None, True/False, or a non-empty path string."
  | historyClosed => some "Step history is closed; solve again to get a new one."
  | nothingToShow => some "Nothing to show: the step history is empty."
  | cancelled => some ""
  | oversizedTolerance | unreadableNumber | numberTooLarge | numeralTooLong | wrongType | ragged
  | severalNumbers | unequalShapes | noRatios | noObjectiveRow | zeroStride | readOnly
  | frozenField | outOfRange | unknownExample | missingField | missingProgram | inputEnded => none

end Fault

/-- A computation in two parts succeeds only if both parts do. -/
theorem exists_of_bind_eq_ok {α β : Type} {first : Except Fault α} {next : α → Except Fault β}
    {result : β} (computed : first >>= next = .ok result) :
    ∃ value, first = .ok value ∧ next value = .ok result := by
  cases first with
  | error fault => exact nomatch computed
  | ok value => exact ⟨value, rfl, computed⟩

/-- What a computation that changes a value comes to: the value at its end, and why it stopped
early, if so. -/
structure Change (σ : Type) where
  value : σ
  fault : Option Fault

namespace Change

/-- The change that goes on with a step from a value, unless it has stopped. -/
def andThen {σ : Type} (change : Change σ) (step : σ → Except Fault σ) : Change σ :=
  match change.fault with
  | some _ => change
  | none =>
      match step change.value with
      | .ok value => ⟨value, none⟩
      | .error fault => ⟨change.value, some fault⟩

/-- The value after a sequence of steps, up to the first one that fails. -/
def ofSteps {σ : Type} (start : σ) (steps : List (σ → Except Fault σ)) : Change σ :=
  steps.foldl andThen ⟨start, none⟩

def result {σ : Type} (change : Change σ) : Except Fault σ :=
  match change.fault with
  | none => .ok change.value
  | some fault => .error fault

end Change

end SimplexReplay
