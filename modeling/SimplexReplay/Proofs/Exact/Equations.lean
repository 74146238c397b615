import Mathlib
import SimplexReplay.Proofs.Exact.Canonical
import SimplexReplay.Proofs.Run.Solved

/-!
# The equations of a program

The initial tableau holds one equation for each constraint, in which the slack makes up for what
the decision variables leave of the bound.  Values that keep every constraint, read as an upper
bound, are the decision part of weights that balance the tableau and are nowhere negative.
-/

namespace SimplexReplay

def dot (first second : List Rat) : Rat :=
  (List.zipWith (· * ·) first second).sum

theorem dot_eq_sum {first second : List Rat} {size : Nat} (firstLength : first.length = size)
    (secondLength : second.length = size) :
    dot first second =
      ∑ position : Fin size, first.getD position.val 0 * second.getD position.val 0 := by
  have products : List.zipWith (· * ·) first second =
      List.ofFn fun position : Fin size =>
        first.getD position.val 0 * second.getD position.val 0 := by
    apply List.ext_getElem (by simp [firstLength, secondLength])
    intro position inZip inside
    simp at inZip
    simp [inZip]
  rw [dot, products, List.sum_ofFn]

namespace Objective

def sign : Objective → Rat
  | maximize => -1
  | minimize => 1

/-- A cost is at least as good as another one. -/
def Prefers (objective : Objective) (first second : Rat) : Prop :=
  match objective with
  | maximize => second ≤ first
  | minimize => first ≤ second

@[simp]
theorem sign_mul_sign (objective : Objective) : objective.sign * objective.sign = 1 := by
  cases objective <;> simp [sign]

theorem prefers_iff {objective : Objective} {first second : Rat} :
    objective.Prefers first second ↔ objective.sign * first ≤ objective.sign * second := by
  cases objective <;> simp [Prefers, sign]

end Objective

namespace Program

/-- Values of the variables that keep every constraint when it is read as an upper bound. -/
structure Admits (program : Program Rat) (values : List Rat) : Prop where
  length_eq : values.length = program.variableCount
  nonneg : ∀ value ∈ values, 0 ≤ value
  bounded : ∀ constraint ∈ program.constraints,
    dot constraint.coefficients values ≤ constraint.bound

def costAt (program : Program Rat) (values : List Rat) : Rat :=
  dot program.costs values

def constraintAt (program : Program Rat) (row : Fin program.constraintCount) : Constraint Rat :=
  program.constraints.get row

def coefficient (program : Program Rat) (row : Fin program.constraintCount)
    (position : Fin program.variableCount) : Rat :=
  (program.constraintAt row).coefficients.getD position.val 0

theorem constraintAt_mem (program : Program Rat) (row : Fin program.constraintCount) :
    program.constraintAt row ∈ program.constraints :=
  List.getElem_mem row.isLt

theorem exists_constraintAt {program : Program Rat} {constraint : Constraint Rat}
    (constraintMem : constraint ∈ program.constraints) :
    ∃ row, program.constraintAt row = constraint := by
  obtain ⟨row, inside, constraintEq⟩ := List.mem_iff_getElem.mp constraintMem
  exact ⟨⟨row, inside⟩, constraintEq⟩

section Entries

variable (program : Program Rat)

theorem initial_objective (column : Fin (program.columnCount + 1)) :
    program.initialTableau.entry 0 column = program.objectiveEntry column.val := by
  rw [initialTableau, Tableau.entry_ofEntries]
  rfl

theorem initial_constraint (row : Fin program.constraintCount)
    (column : Fin (program.columnCount + 1)) :
    program.initialTableau.entry row.succ column =
      program.constraintEntry row.val column.val := by
  rw [initialTableau, Tableau.entry_ofEntries]
  rfl

theorem initial_cost (position : Fin program.variableCount) :
    program.initialTableau.entry 0 (program.decisionColumn position).castSucc =
      program.objective.sign * program.costs.getD position.val 0 := by
  have inside : position.val < program.costs.length := position.isLt
  rw [initial_objective]
  cases direction : program.objective <;>
    simp [objectiveEntry, reducedCosts, direction, Objective.sign, inside]

theorem objectiveEntry_of_le {column : Nat} (outside : program.variableCount ≤ column) :
    program.objectiveEntry column = 0 := by
  apply List.getD_eq_default
  cases direction : program.objective <;>
    simpa [reducedCosts, direction, variableCount] using outside

theorem initial_cost_slack (row : Fin program.constraintCount) :
    program.initialTableau.entry 0 (program.slackColumn row).castSucc = 0 := by
  rw [initial_objective]
  exact program.objectiveEntry_of_le (Nat.le_add_right program.variableCount row.val)

theorem initial_corner :
    program.initialTableau.entry 0 (Fin.last program.columnCount) = 0 := by
  rw [initial_objective]
  exact program.objectiveEntry_of_le (Nat.le_add_right program.variableCount _)

theorem constraintEntry_row (row : Fin program.constraintCount) (column : Nat) :
    program.constraintEntry row.val column =
      if column < program.variableCount then (program.constraintAt row).coefficients.getD column 0
      else if column < program.columnCount then
        if column - program.variableCount = row.val then 1 else 0
      else (program.constraintAt row).bound := by
  have inside : row.val < program.constraints.length := row.isLt
  rw [constraintEntry, List.getElem?_eq_getElem inside]
  rfl

theorem initial_coefficient (row : Fin program.constraintCount)
    (position : Fin program.variableCount) :
    program.initialTableau.entry row.succ (program.decisionColumn position).castSucc =
      program.coefficient row position := by
  rw [initial_constraint, constraintEntry_row, Fin.val_castSucc, val_decisionColumn,
    if_pos position.isLt]
  rfl

theorem initial_slack (row other : Fin program.constraintCount) :
    program.initialTableau.entry row.succ (program.slackColumn other).castSucc =
      if other = row then 1 else 0 := by
  have notDecision : ¬ program.variableCount + other.val < program.variableCount := by omega
  have isColumn : program.variableCount + other.val < program.columnCount :=
    Nat.add_lt_add_left other.isLt program.variableCount
  rw [initial_constraint, constraintEntry_row, Fin.val_castSucc, val_slackColumn,
    if_neg notDecision, if_pos isColumn, Nat.add_sub_cancel_left]
  simp only [Fin.ext_iff]

theorem initial_bound (row : Fin program.constraintCount) :
    program.initialTableau.entry row.succ (Fin.last program.columnCount) =
      (program.constraintAt row).bound := by
  have notDecision : ¬ program.columnCount < program.variableCount :=
    Nat.not_lt.mpr (Nat.le_add_right program.variableCount _)
  rw [initial_constraint, constraintEntry_row, Fin.val_last, if_neg notDecision,
    if_neg (Nat.lt_irrefl program.columnCount)]

end Entries

section Sums

variable (program : Program Rat)

theorem sum_columns (value : Fin program.columnCount → Rat) :
    ∑ column, value column =
      ∑ position, value (program.decisionColumn position) +
        ∑ row, value (program.slackColumn row) :=
  Fin.sum_univ_add value

theorem initial_rowValue_zero (weights : Fin program.columnCount → Rat) (last : Rat) :
    program.initialTableau.rowValue 0 (extended weights last) =
      program.objective.sign * ∑ position : Fin program.variableCount,
        program.costs.getD position.val 0 * weights (program.decisionColumn position) := by
  rw [Tableau.rowValue_extended, sum_columns, initial_corner]
  simp only [initial_cost, initial_cost_slack, zero_mul, Finset.sum_const_zero, add_zero,
    mul_assoc, ← Finset.mul_sum]

/-- An initial constraint row weighs the decision variables by their coefficients, and adds the
slack. -/
theorem initial_rowValue_succ (row : Fin program.constraintCount)
    (weights : Fin program.columnCount → Rat) (last : Rat) :
    program.initialTableau.rowValue row.succ (extended weights last) =
      ∑ position, program.coefficient row position * weights (program.decisionColumn position) +
        weights (program.slackColumn row) + (program.constraintAt row).bound * last := by
  rw [Tableau.rowValue_extended, sum_columns, initial_bound]
  simp [initial_coefficient, initial_slack]

end Sums

/-- The weights of the decision variables. -/
def decisionPart (program : Program Rat) (weights : Fin program.columnCount → Rat) : List Rat :=
  List.ofFn fun position => weights (program.decisionColumn position)

/-- Weights that take the given values for the decision variables, and for each slack what these
leave of the bound. -/
def completed (program : Program Rat) (values : List Rat) (column : Fin program.columnCount) :
    Rat :=
  Fin.addCases (fun position : Fin program.variableCount => values.getD position.val 0)
    (fun row : Fin program.constraintCount =>
      (program.constraintAt row).bound - dot (program.constraintAt row).coefficients values)
    column

@[simp]
theorem completed_decisionColumn (program : Program Rat) (values : List Rat)
    (position : Fin program.variableCount) :
    program.completed values (program.decisionColumn position) =
      values.getD position.val 0 :=
  Fin.addCases_left position

@[simp]
theorem completed_slackColumn (program : Program Rat) (values : List Rat)
    (row : Fin program.constraintCount) :
    program.completed values (program.slackColumn row) =
      (program.constraintAt row).bound - dot (program.constraintAt row).coefficients values :=
  Fin.addCases_right row

@[simp]
theorem length_decisionPart (program : Program Rat) (weights : Fin program.columnCount → Rat) :
    (program.decisionPart weights).length = program.variableCount := by
  simp [decisionPart]

theorem getD_decisionPart (program : Program Rat) (weights : Fin program.columnCount → Rat)
    (position : Fin program.variableCount) :
    (program.decisionPart weights).getD position.val 0 =
      weights (program.decisionColumn position) := by
  simp [decisionPart]

theorem decisionPart_nonneg (program : Program Rat) {weights : Fin program.columnCount → Rat}
    (nonneg : ∀ column, 0 ≤ weights column) :
    ∀ value ∈ program.decisionPart weights, 0 ≤ value := by
  intro value valueMem
  obtain ⟨position, rfl⟩ := List.mem_ofFn.mp valueMem
  exact nonneg (program.decisionColumn position)

section WellShaped

variable {program : Program Rat} (wellShaped : program.WellShaped)
include wellShaped

theorem length_coefficients (row : Fin program.constraintCount) :
    (program.constraintAt row).coefficients.length = program.variableCount :=
  wellShaped.2.2 _ (program.constraintAt_mem row)

theorem dot_coefficients {values : List Rat} (lengthEq : values.length = program.variableCount)
    (row : Fin program.constraintCount) :
    dot (program.constraintAt row).coefficients values =
      ∑ position, program.coefficient row position * values.getD position.val 0 :=
  dot_eq_sum (length_coefficients wellShaped row) lengthEq

theorem initial_rowValue_decisionPart (row : Fin program.constraintCount)
    (weights : Fin program.columnCount → Rat) (last : Rat) :
    program.initialTableau.rowValue row.succ (extended weights last) =
      dot (program.constraintAt row).coefficients (program.decisionPart weights) +
        weights (program.slackColumn row) + (program.constraintAt row).bound * last := by
  rw [initial_rowValue_succ, dot_coefficients wellShaped (program.length_decisionPart weights)]
  simp only [getD_decisionPart]

theorem balanced_completed {values : List Rat}
    (lengthEq : values.length = program.variableCount) :
    program.initialTableau.Balanced (extended (program.completed values) (-1)) := by
  intro row
  rw [initial_rowValue_succ, completed_slackColumn, dot_coefficients wellShaped lengthEq]
  simp only [completed_decisionColumn]
  ring

theorem dot_decisionPart_le {weights : Fin program.columnCount → Rat} {last : Rat}
    (balanced : program.initialTableau.Balanced (extended weights last))
    (nonneg : ∀ column, 0 ≤ weights column) {constraint : Constraint Rat}
    (constraintMem : constraint ∈ program.constraints) :
    dot constraint.coefficients (program.decisionPart weights) ≤ -(constraint.bound * last) := by
  obtain ⟨row, rfl⟩ := exists_constraintAt constraintMem
  have equation := balanced row
  rw [initial_rowValue_decisionPart wellShaped] at equation
  linarith [nonneg (program.slackColumn row)]

theorem admits_decisionPart {weights : Fin program.columnCount → Rat}
    (balanced : program.initialTableau.Balanced (extended weights (-1)))
    (nonneg : ∀ column, 0 ≤ weights column) : program.Admits (program.decisionPart weights) where
  length_eq := program.length_decisionPart weights
  nonneg := program.decisionPart_nonneg nonneg
  bounded := by
    intro constraint constraintMem
    simpa using dot_decisionPart_le wellShaped balanced nonneg constraintMem

end WellShaped

theorem completed_nonneg {program : Program Rat} {values : List Rat}
    (admits : program.Admits values) (column : Fin program.columnCount) :
    0 ≤ program.completed values column := by
  refine Fin.addCases (fun position => ?_) (fun row => ?_) column
  · have inside : position.val < values.length := by
      rw [admits.length_eq]
      exact position.isLt
    change 0 ≤ program.completed values (program.decisionColumn position)
    rw [completed_decisionColumn, List.getD_eq_getElem _ _ inside]
    exact admits.nonneg _ (List.getElem_mem inside)
  · change 0 ≤ program.completed values (program.slackColumn row)
    rw [completed_slackColumn, sub_nonneg]
    exact admits.bounded _ (program.constraintAt_mem row)

theorem decisionPart_completed {program : Program Rat} {values : List Rat}
    (lengthEq : values.length = program.variableCount) :
    program.decisionPart (program.completed values) = values := by
  apply List.ext_getElem (by simp [lengthEq])
  intro position first inside
  simp [decisionPart, inside]

theorem costAt_eq_sum {program : Program Rat} {values : List Rat}
    (lengthEq : values.length = program.variableCount) :
    program.costAt values =
      ∑ position : Fin program.variableCount,
        program.costs.getD position.val 0 * values.getD position.val 0 :=
  dot_eq_sum rfl lengthEq

theorem initial_objective_decisionPart (program : Program Rat)
    (weights : Fin program.columnCount → Rat) (last : Rat) :
    program.initialTableau.rowValue 0 (extended weights last) =
      program.objective.sign * program.costAt (program.decisionPart weights) := by
  rw [initial_rowValue_zero, costAt_eq_sum (program.length_decisionPart weights)]
  simp only [getD_decisionPart]

end Program

end SimplexReplay
