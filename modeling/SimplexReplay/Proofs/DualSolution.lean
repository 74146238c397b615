import Mathlib
import SimplexReplay.Program.Dual
import SimplexReplay.Proofs.Exact.Outcome

/-!
# Dual solutions

The reduced costs of the slacks at the end of an optimal exact solve, negated for a minimum, solve
the dual program: they have the sign that is stated for its variables, keep each of its constraints
with the relation of that constraint, and cost what the recorded solution costs.  This holds for
constraints of every relation and bounds of every sign, as only the objective row is read.
-/

namespace SimplexReplay

def Relation.Holds (relation : Relation) (left right : Rat) : Prop :=
  match relation with
  | atMost => left ≤ right
  | equal => left = right
  | atLeast => right ≤ left

/-- Values of the variables keep a constraint with its own relation. -/
def Constraint.Holds (constraint : Constraint Rat) (values : List Rat) : Prop :=
  constraint.relation.Holds (dot constraint.coefficients values) constraint.bound

namespace Program

/-- The reduced costs of the slacks, negated for a minimum. -/
def dualValues (program : Program Rat)
    (tableau : Tableau Rat program.constraintCount program.columnCount) : List Rat :=
  List.ofFn fun row =>
    match program.objective with
    | .maximize => tableau.reducedCost (program.slackColumn row)
    | .minimize => -tableau.reducedCost (program.slackColumn row)

/-- Values solve the dual of a program at a cost: they have the stated sign, keep every constraint
of the dual, and the dual gives them this cost. -/
structure DualSolution (program dual : Program Rat) (values : List Rat) (cost : Rat) : Prop where
  length_eq : values.length = dual.variableCount
  signed : ∃ relation : Relation, program.dualSign = relation.sign ++ " 0" ∧
    ∀ value ∈ values, relation.Holds value 0
  keeps : ∀ constraint ∈ dual.constraints, constraint.Holds values
  cost_eq : dual.costAt values = cost

variable {program : Program Rat}

theorem dualSign_eq (program : Program Rat) :
    program.dualSign = (dualRelation program.objective).sign ++ " 0" := by
  rw [dualSign]
  cases program.objective <;> rfl

theorem dualRelation_holds_iff {objective : Objective} {left right : Rat} :
    (dualRelation objective).Holds left right ↔
      objective.sign * left ≤ objective.sign * right := by
  cases objective <;> simp [dualRelation, Relation.Holds, Objective.sign]

theorem length_dualValues
    (tableau : Tableau Rat program.constraintCount program.columnCount) :
    (program.dualValues tableau).length = program.constraintCount := by
  simp [dualValues]

theorem getD_dualValues (tableau : Tableau Rat program.constraintCount program.columnCount)
    (row : Fin program.constraintCount) :
    (program.dualValues tableau).getD row.val 0 =
      -(program.objective.sign * tableau.reducedCost (program.slackColumn row)) := by
  cases direction : program.objective <;> simp [dualValues, direction, Objective.sign]

/-- Multiplied with the dual values, one entry for each constraint comes to what the slacks add by
their reduced costs, up to the sign. -/
theorem sign_mul_dot_dualValues
    (tableau : Tableau Rat program.constraintCount program.columnCount) {entries : List Rat}
    (lengthEq : entries.length = program.constraintCount) :
    program.objective.sign * dot entries (program.dualValues tableau) =
      -∑ row : Fin program.constraintCount,
        tableau.reducedCost (program.slackColumn row) * entries.getD row.val 0 := by
  rw [dot_eq_sum lengthEq (length_dualValues tableau), Finset.mul_sum, ← Finset.sum_neg_distrib]
  apply Finset.sum_congr rfl
  intro row _
  have square := program.objective.sign_mul_sign
  rw [getD_dualValues]
  linear_combination
    (-(entries.getD row.val 0 * tableau.reducedCost (program.slackColumn row))) * square

theorem getD_bounds (row : Fin program.constraintCount) :
    (program.constraints.map (·.bound)).getD row.val 0 = (program.constraintAt row).bound := by
  have inside : row.val < (program.constraints.map (·.bound)).length := by
    rw [List.length_map]
    exact row.isLt
  rw [List.getD_eq_getElem _ _ inside, List.getElem_map]
  rfl

theorem getD_coefficientColumn (row : Fin program.constraintCount)
    (position : Fin program.variableCount) :
    (program.coefficientColumn position.val).getD row.val 0 =
      program.coefficient row position := by
  have inside : row.val < (program.coefficientColumn position.val).length := by
    rw [coefficientColumn, List.length_map]
    exact row.isLt
  rw [List.getD_eq_getElem _ _ inside]
  simp only [coefficientColumn, List.getElem_map]
  rfl

section Transposed

variable {tableau : Tableau Rat program.constraintCount program.columnCount}
  (equivalent : program.initialTableau.Equivalent tableau)
include equivalent

theorem reducedCost_decisionColumn (position : Fin program.variableCount) :
    tableau.reducedCost (program.decisionColumn position) =
      program.objective.sign * program.costs.getD position.val 0 +
        ∑ row, tableau.reducedCost (program.slackColumn row) *
          program.coefficient row position := by
  have costEq := equivalent.reducedCost_eq program.canonical_initialTableau
    (program.decisionColumn position)
  simp only [Tableau.body, initial_coefficient] at costEq
  rw [costEq, ← initial_cost]
  rfl

theorem objectiveCell_eq_sum :
    tableau.objectiveCell =
      ∑ row, tableau.reducedCost (program.slackColumn row) *
        (program.constraintAt row).bound := by
  have cellEq := equivalent.objectiveCell_eq program.canonical_initialTableau
  have cornerEq : program.initialTableau.objectiveCell = 0 := program.initial_corner
  simp only [Tableau.rhs, Tableau.body, initial_bound] at cellEq
  rw [cellEq, cornerEq, zero_add]

theorem costAt_transposed :
    program.transposed.costAt (program.dualValues tableau) =
      tableau.costValue program.objective := by
  have lengthEq : (program.constraints.map (·.bound)).length = program.constraintCount := by
    simp [constraintCount]
  have signedEq := sign_mul_dot_dualValues tableau lengthEq
  simp only [getD_bounds, ← objectiveCell_eq_sum equivalent] at signedEq
  rw [costValue_eq, ← mul_neg, ← signedEq, ← mul_assoc, Objective.sign_mul_sign, one_mul]
  rfl

theorem holds_transposed (finished : ∀ column, 0 ≤ tableau.reducedCost column)
    (position : Fin program.variableCount) :
    (dualRelation program.objective).Holds
      (dot (program.coefficientColumn position.val) (program.dualValues tableau))
      (program.costs.getD position.val 0) := by
  have lengthEq : (program.coefficientColumn position.val).length = program.constraintCount := by
    simp [coefficientColumn, constraintCount]
  have signedEq := sign_mul_dot_dualValues tableau lengthEq
  simp only [getD_coefficientColumn] at signedEq
  have costEq := reducedCost_decisionColumn equivalent position
  rw [dualRelation_holds_iff, signedEq]
  linarith [finished (program.decisionColumn position)]

end Transposed

theorem exists_of_mem_transposed {constraint : Constraint Rat}
    (constraintMem : constraint ∈ program.transposed.constraints) :
    ∃ position : Fin program.variableCount, constraint =
      ⟨program.coefficientColumn position.val, dualRelation program.objective,
        program.costs.getD position.val 0⟩ := by
  obtain ⟨⟨cost, position⟩, pairMem, rfl⟩ := List.mem_map.mp constraintMem
  obtain ⟨inside, costEq⟩ := List.mem_zipIdx' pairMem
  refine ⟨⟨position, inside⟩, ?_⟩
  rw [List.getD_eq_getElem _ _ inside, costEq]

/-- Where no reduced cost is negative, the dual values solve the dual at the cost that the tableau
shows. -/
theorem dualSolution_transposed
    {tableau : Tableau Rat program.constraintCount program.columnCount}
    (equivalent : program.initialTableau.Equivalent tableau)
    (finished : ∀ column, 0 ≤ tableau.reducedCost column) :
    program.DualSolution program.transposed (program.dualValues tableau)
      (tableau.costValue program.objective) where
  length_eq := by simp [length_dualValues, transposed, variableCount, constraintCount]
  signed := by
    refine ⟨dualRelation program.objective, program.dualSign_eq, ?_⟩
    intro value valueMem
    obtain ⟨row, inside, rfl⟩ := List.mem_iff_getElem.mp valueMem
    have isRow : row < program.constraintCount := by
      simpa [length_dualValues] using inside
    have valueEq := getD_dualValues tableau ⟨row, isRow⟩
    rw [List.getD_eq_getElem _ _ inside] at valueEq
    rw [dualRelation_holds_iff, valueEq, mul_neg, ← mul_assoc, Objective.sign_mul_sign]
    linarith [finished (program.slackColumn ⟨row, isRow⟩)]
  keeps := by
    intro constraint constraintMem
    obtain ⟨position, rfl⟩ := exists_of_mem_transposed constraintMem
    exact holds_transposed equivalent finished position
  cost_eq := costAt_transposed equivalent

/-- An optimal exact solve records a solution whose cost the reduced costs of the slacks, as a
solution of the dual program, reach as well. -/
theorem exists_dualSolution_of_solve {rule : PivotRule} {cap : Nat}
    {course : Course Rat program.constraintCount program.columnCount}
    (solved : program.solve 0 rule cap = .ok course)
    (optimal : course.ending = .reached .optimal) :
    ∃ solution dual, course.solution? = some solution ∧ program.dual = .ok dual ∧
      program.DualSolution dual (program.dualValues course.last.tableau) solution.cost := by
  obtain ⟨columns, outcome⟩ := exists_outcome (le_refl 0) solved
  have finished : ∀ column, 0 ≤ course.last.tableau.reducedCost column := by
    simpa using outcome.finish_of_optimal optimal
  have dualEq : program.dual = .ok program.transposed := by
    rw [dual, (checkShape_eq_ok_iff program).mpr outcome.wellShaped]
    rfl
  exact ⟨_, _, outcome.solution_of_optimal optimal, dualEq,
    dualSolution_transposed outcome.seen.equivalent finished⟩

/-- A minimum under constraints of every relation, one of them with a negative bound. -/
def mixed : Program Rat where
  objective := .minimize
  costs := [-2, 1]
  constraints := [⟨[1, 1], .atMost, 3⟩, ⟨[1, -2], .equal, 2⟩, ⟨[-1, 0], .atLeast, -1⟩]

/-- The slacks of the mixed program end with reduced costs that solve its dual at the cost `-5`. -/
theorem dualSolution_mixed :
    (mixed.course 0 .dantzig 5).ending = .reached .optimal ∧
      mixed.DualSolution mixed.transposed [-1, -1, 0] (-5) := by
  have optimal : (mixed.course 0 .dantzig 5).ending = .reached .optimal := by decide +kernel
  have recorded : (mixed.course 0 .dantzig 5).solution? = some ⟨[8 / 3, 1 / 3], -5⟩ := by
    decide +kernel
  have valuesEq : mixed.dualValues (mixed.course 0 .dantzig 5).last.tableau = [-1, -1, 0] := by
    decide +kernel
  obtain ⟨solution, dual, solutionEq, dualEq, solves⟩ :=
    exists_dualSolution_of_solve
      (rfl : mixed.solve 0 .dantzig 5 = .ok (mixed.course 0 .dantzig 5)) optimal
  obtain rfl : solution = ⟨[8 / 3, 1 / 3], -5⟩ := Option.some.inj (solutionEq.symm.trans recorded)
  obtain rfl : dual = mixed.transposed := Except.ok.inj (dualEq.symm.trans rfl)
  exact ⟨optimal, valuesEq ▸ solves⟩

end Program

end SimplexReplay
