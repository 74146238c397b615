import Mathlib.LinearAlgebra.Matrix.NonsingularInverse
import SimplexReplay.Proofs.DualSolution
import SimplexReplay.Proofs.Exact.Recorded

/-!
# Recorded tableaus as views of a program

The slack columns of a tableau show by which matrix the rows of the program have been multiplied,
and their reduced costs which multiples of the rows were added to the costs.  Every step that an
exact solve records is the program seen in this way from the basis recorded with it, whatever the
relations and the signs of the bounds are, and also when the solve meets its cap.
-/

namespace SimplexReplay

variable {m n : Nat}

namespace Tableau

/-- An entry of a constraint row is made up of the initial entries of its column, each as often as
the basic column of its row says. -/
theorem Equivalent.body_eq {initial tableau : Tableau Rat m n} {columns : Fin m → Fin n}
    (equivalent : initial.Equivalent tableau) (canonical : initial.Canonical columns)
    (row : Fin m) (column : Fin n) :
    tableau.body row column.castSucc =
      ∑ basic, tableau.body row (columns basic).castSucc *
        initial.body basic column.castSucc := by
  have balanced := (equivalent.balanced_iff _).mp (canonical.balanced_ray column) row
  rw [rowValue_ray] at balanced
  exact sub_eq_zero.mp balanced

theorem Equivalent.rhs_eq {initial tableau : Tableau Rat m n} {columns : Fin m → Fin n}
    (equivalent : initial.Equivalent tableau) (canonical : initial.Canonical columns)
    (row : Fin m) :
    tableau.rhs row =
      ∑ basic, tableau.body row (columns basic).castSucc * initial.rhs basic := by
  have balanced := (equivalent.balanced_iff _).mp canonical.balanced_basicSolution row
  rw [rowValue_basicSolution] at balanced
  exact (sub_eq_zero.mp balanced).symm

end Tableau

namespace Point

/-- The value of a column at a point: the right-hand side of the row that lists it in the basis,
and zero if no row does. -/
def valueOf (point : Point Rat m n) (column : Fin n) : Rat :=
  match (List.finRange m).find? fun row => point.basis[row.val]? = some (column.val : Int) with
  | some row => point.tableau.rhs row
  | none => 0

theorem Tracks.getElem?_eq_some_iff {point : Point Rat m n} {columns : Fin m → Fin n}
    (tracks : point.Tracks columns) {row : Fin m} {column : Fin n} :
    point.basis[row.val]? = some (column.val : Int) ↔ columns row = column := by
  rw [tracks.getElem? row, Option.some.injEq, Int.ofNat_inj, Fin.val_inj]

theorem valueOf_eq_basicSolution {point : Point Rat m n} {columns : Fin m → Fin n}
    (tracks : point.Tracks columns) (distinct : Function.Injective columns) (column : Fin n) :
    point.valueOf column = point.tableau.basicSolution columns column := by
  rw [valueOf]
  cases found : (List.finRange m).find?
      fun row => point.basis[row.val]? = some (column.val : Int) with
  | none =>
      have notBasic : ∀ row, columns row ≠ column := by
        intro row same
        have missed := List.find?_eq_none.mp found row (List.mem_finRange row)
        exact missed (decide_eq_true (tracks.getElem?_eq_some_iff.mpr same))
      exact (spread_of_not_basic notBasic point.tableau.rhs).symm
  | some row =>
      have listed : point.basis[row.val]? = some (column.val : Int) := by
        simpa using List.find?_some found
      obtain rfl := tracks.getElem?_eq_some_iff.mp listed
      exact (spread_basic distinct point.tableau.rhs row).symm

end Point

namespace Program

open Matrix

section Blocks

variable (program : Program Rat)

def coefficientMatrix : Matrix (Fin program.constraintCount) (Fin program.variableCount) Rat :=
  Matrix.of program.coefficient

def boundVector (row : Fin program.constraintCount) : Rat :=
  (program.constraintAt row).bound

/-- The costs of the decision variables as they stand in the objective row. -/
def costVector (position : Fin program.variableCount) : Rat :=
  (reducedCosts program.objective program.costs).getD position.val 0

variable (tableau : Tableau Rat program.constraintCount program.columnCount)

def slackBlock : Matrix (Fin program.constraintCount) (Fin program.constraintCount) Rat :=
  Matrix.of fun row slack => tableau.body row (program.slackColumn slack).castSucc

def decisionBlock : Matrix (Fin program.constraintCount) (Fin program.variableCount) Rat :=
  Matrix.of fun row position => tableau.body row (program.decisionColumn position).castSucc

def slackCosts (slack : Fin program.constraintCount) : Rat :=
  tableau.reducedCost (program.slackColumn slack)

def decisionCosts (position : Fin program.variableCount) : Rat :=
  tableau.reducedCost (program.decisionColumn position)

end Blocks

/-- A point shows a program from its basis. -/
structure SeenAt (program : Program Rat)
    (point : Point Rat program.constraintCount program.columnCount) : Prop where
  isUnit_slackBlock : IsUnit (program.slackBlock point.tableau)
  decisionBlock_eq : program.decisionBlock point.tableau =
    program.slackBlock point.tableau * program.coefficientMatrix
  rhs_eq : point.tableau.rhs = program.slackBlock point.tableau *ᵥ program.boundVector
  decisionCosts_eq : program.decisionCosts point.tableau =
    program.costVector + program.slackCosts point.tableau ᵥ* program.coefficientMatrix
  objectiveCell_eq : point.tableau.objectiveCell =
    program.slackCosts point.tableau ⬝ᵥ program.boundVector
  length_basis : point.basis.length = program.constraintCount
  nodup_basis : point.basis.Nodup
  basis_range : ∀ column ∈ point.basis, 0 ≤ column ∧ column < program.columnCount
  unit_column : ∀ (row : Fin program.constraintCount) (column : Fin program.columnCount),
    point.basis[row.val]? = some (column.val : Int) →
      ∀ other, point.tableau.entry other column.castSucc = if other = row.succ then 1 else 0
  solution_eq : ∃ solution,
    point.tableau.solution program.variableCount program.objective point.basis = .ok solution ∧
      solution.values.length = program.variableCount ∧
      program.costAt solution.values = solution.cost ∧
      ∀ row, dot (program.constraintAt row).coefficients solution.values +
        point.valueOf (program.slackColumn row) = (program.constraintAt row).bound

section Seen

variable {program : Program Rat}
  {point : Point Rat program.constraintCount program.columnCount}
  {columns : Fin program.constraintCount → Fin program.columnCount}
  (seen : point.SeenFrom program.initialTableau columns)
include seen

theorem decisionBlock_eq_mul : program.decisionBlock point.tableau =
    program.slackBlock point.tableau * program.coefficientMatrix := by
  ext row position
  have entryEq := seen.equivalent.body_eq program.canonical_initialTableau row
    (program.decisionColumn position)
  simp only [Tableau.body, initial_coefficient] at entryEq
  exact entryEq

theorem rhs_eq_mulVec : point.tableau.rhs =
    program.slackBlock point.tableau *ᵥ program.boundVector := by
  funext row
  have rhsEq := seen.equivalent.rhs_eq program.canonical_initialTableau row
  simp only [Tableau.rhs, Tableau.body, initial_bound] at rhsEq
  exact rhsEq

/-- The initial columns of the basis undo what has been done to the rows. -/
theorem isUnit_slackBlock : IsUnit (program.slackBlock point.tableau) := by
  have inverse : (Matrix.of fun row basic =>
      program.initialTableau.body row (columns basic).castSucc) *
        program.slackBlock point.tableau = 1 := by
    ext row slack
    have entryEq := seen.equivalent.symm.body_eq seen.canonical row (program.slackColumn slack)
    simp only [Tableau.body, initial_slack] at entryEq
    rw [Matrix.one_apply, Matrix.mul_apply]
    simp only [eq_comm (a := row)]
    exact entryEq.symm
  exact IsUnit.of_mul_eq_one_right _ inverse

theorem decisionCosts_eq_add : program.decisionCosts point.tableau =
    program.costVector + program.slackCosts point.tableau ᵥ* program.coefficientMatrix := by
  funext position
  have initialEq : program.costVector position =
      program.objective.sign * program.costs.getD position.val 0 := by
    rw [← initial_cost, initial_objective]
    rfl
  rw [Pi.add_apply, initialEq]
  exact reducedCost_decisionColumn seen.equivalent position

theorem objectiveCell_eq_dotProduct : point.tableau.objectiveCell =
    program.slackCosts point.tableau ⬝ᵥ program.boundVector :=
  objectiveCell_eq_sum seen.equivalent

theorem solution_shown :
    point.tableau.solution program.variableCount program.objective point.basis = .ok
      ⟨program.decisionPart (point.tableau.basicSolution columns),
        point.tableau.costValue program.objective⟩ := by
  rw [Tableau.solution, seen.tracks, Tableau.decisionValues_ofFn,
    program.foldl_assign_eq_decisionPart _ seen.canonical.injective]
  rfl

theorem seenAt_of_seenFrom (wellShaped : program.WellShaped) : program.SeenAt point where
  isUnit_slackBlock := isUnit_slackBlock seen
  decisionBlock_eq := decisionBlock_eq_mul seen
  rhs_eq := rhs_eq_mulVec seen
  decisionCosts_eq := decisionCosts_eq_add seen
  objectiveCell_eq := objectiveCell_eq_dotProduct seen
  length_basis := by rw [seen.tracks, List.length_ofFn]
  nodup_basis := by
    rw [seen.tracks]
    apply List.nodup_ofFn_ofInjective
    intro first second same
    exact seen.canonical.injective (Fin.ext (Int.ofNat_inj.mp same))
  basis_range := by
    intro column listed
    rw [seen.tracks] at listed
    obtain ⟨row, rfl⟩ := List.mem_ofFn.mp listed
    omega
  unit_column := by
    intro row column listed
    obtain rfl := seen.tracks.getElem?_eq_some_iff.mp listed
    exact seen.canonical row
  solution_eq := by
    refine ⟨_, solution_shown seen, length_decisionPart _ _, costAt_shown seen, ?_⟩
    intro row
    rw [Point.valueOf_eq_basicSolution seen.tracks seen.canonical.injective]
    exact dot_add_slack seen wellShaped row

end Seen

/-- Every step that an exact solve records shows the program from its basis. -/
theorem exists_seenAt_of_solve {program : Program Rat} (wellShaped : program.WellShaped)
    {tolerance : Rat} (nonneg : 0 ≤ tolerance) (rule : PivotRule) (cap : Nat) :
    ∃ course, program.solve tolerance rule cap = .ok course ∧
      ∀ step ∈ course.steps, program.SeenAt step.point := by
  have solved := solve_eq_ok_iff.mpr ⟨wellShaped, (rfl : program.course tolerance rule cap = _)⟩
  refine ⟨_, solved, ?_⟩
  intro step recorded
  obtain ⟨columns, seen⟩ := exists_seenFrom_of_mem_steps nonneg solved recorded
  exact seenAt_of_seenFrom seen wellShaped

/-- The mixed program meets its cap after one pivot, and its three steps show it from their
bases. -/
theorem seenAt_mixed :
    mixed.WellShaped ∧ (0 : Rat) ≤ 1 / 8 ∧
      ∃ course, mixed.solve (1 / 8) .bland 1 = .ok course ∧ course.ending = .capped ∧
        course.steps.length = 3 ∧ ∀ step ∈ course.steps, mixed.SeenAt step.point := by
  have wellShaped : mixed.WellShaped := by
    simp [WellShaped, variableCount, constraintCount, mixed]
  have nonneg : (0 : Rat) ≤ 1 / 8 := by decide +kernel
  obtain ⟨course, solved, seen⟩ := exists_seenAt_of_solve wellShaped nonneg .bland 1
  refine ⟨wellShaped, nonneg, course, solved, ?_, ?_, seen⟩
  all_goals
    obtain ⟨-, rfl⟩ := solve_eq_ok_iff.mp solved
    decide +kernel

end Program

end SimplexReplay
