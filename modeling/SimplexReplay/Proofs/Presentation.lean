import SimplexReplay.Proofs.Endings

/-!
# The answer does not depend on the presentation

A program can be presented with its variables and its constraints in another order, and with each
constraint multiplied by a positive factor.  Two solves of such presentations may make quite
different pivots.  They end with the same status and the same cost all the same, as a status says
something about the costs that admitted values have: an optimal solve has found the best of them,
and an unbounded one that there is none.
-/

namespace SimplexReplay

/-- Another program presents the same variables and constraints in another order, each constraint
multiplied by a positive factor.  The maps go from places in the other program to places in the
program. -/
structure Rearrangement (program other : Program Rat) where
  variableAt : Fin other.variableCount ≃ Fin program.variableCount
  rowAt : Fin other.constraintCount ≃ Fin program.constraintCount
  factor : Fin other.constraintCount → Rat
  factor_pos : ∀ row, 0 < factor row
  objective_eq : other.objective = program.objective
  cost_eq : ∀ position : Fin other.variableCount,
    other.costs.getD position.val 0 = program.costs.getD (variableAt position).val 0
  relation_eq : ∀ row,
    (other.constraintAt row).relation = (program.constraintAt (rowAt row)).relation
  coefficient_eq : ∀ row position, other.coefficient row position =
    factor row * program.coefficient (rowAt row) (variableAt position)
  bound_eq : ∀ row,
    (other.constraintAt row).bound = factor row * (program.constraintAt (rowAt row)).bound

namespace Program

/-- A cost that admitted values have and that no admitted values improve on. -/
structure BestCost (program : Program Rat) (cost : Rat) : Prop where
  attained : ∃ values, program.Admits values ∧ program.costAt values = cost
  best : ∀ values, program.Admits values →
    program.objective.Prefers cost (program.costAt values)

/-- The costs of admitted values pass every bound. -/
def Endless (program : Program Rat) : Prop :=
  ∀ bound, ∃ values, program.Admits values ∧
    program.objective.Passes bound (program.costAt values)

variable {program : Program Rat}

theorem BestCost.unique {first second : Rat} (firstBest : program.BestCost first)
    (secondBest : program.BestCost second) : first = second := by
  obtain ⟨firstValues, firstAdmits, rfl⟩ := firstBest.attained
  obtain ⟨secondValues, secondAdmits, rfl⟩ := secondBest.attained
  have forth := firstBest.best secondValues secondAdmits
  have back := secondBest.best firstValues firstAdmits
  cases direction : program.objective with
  | maximize =>
      rw [direction] at forth back
      exact le_antisymm back forth
  | minimize =>
      rw [direction] at forth back
      exact le_antisymm forth back

theorem BestCost.not_endless {cost : Rat} (bestCost : program.BestCost cost) :
    ¬program.Endless := by
  intro endless
  obtain ⟨values, admits, passes⟩ := endless (-(program.objective.sign * cost))
  have bounded := Objective.prefers_iff.mp (bestCost.best values admits)
  rw [Objective.passes_iff, neg_neg] at passes
  exact absurd bounded (not_le.mpr passes)

end Program

namespace Rearrangement

variable {program other : Program Rat}

def symm (rearranged : Rearrangement program other) : Rearrangement other program where
  variableAt := rearranged.variableAt.symm
  rowAt := rearranged.rowAt.symm
  factor row := (rearranged.factor (rearranged.rowAt.symm row))⁻¹
  factor_pos row := inv_pos.mpr (rearranged.factor_pos _)
  objective_eq := rearranged.objective_eq.symm
  cost_eq position := by rw [rearranged.cost_eq, Equiv.apply_symm_apply]
  relation_eq row := by rw [rearranged.relation_eq, Equiv.apply_symm_apply]
  coefficient_eq row position := by
    rw [rearranged.coefficient_eq, Equiv.apply_symm_apply, Equiv.apply_symm_apply,
      inv_mul_cancel_left₀ (rearranged.factor_pos _).ne']
  bound_eq row := by
    rw [rearranged.bound_eq, Equiv.apply_symm_apply,
      inv_mul_cancel_left₀ (rearranged.factor_pos _).ne']

def carry (rearranged : Rearrangement program other) (values : List Rat) : List Rat :=
  List.ofFn fun position => values.getD (rearranged.variableAt position).val 0

variable (rearranged : Rearrangement program other)

theorem length_carry (values : List Rat) :
    (rearranged.carry values).length = other.variableCount :=
  List.length_ofFn

theorem getD_carry (values : List Rat) (position : Fin other.variableCount) :
    (rearranged.carry values).getD position.val 0 =
      values.getD (rearranged.variableAt position).val 0 := by
  simp [carry]

theorem costAt_carry {values : List Rat} (lengthEq : values.length = program.variableCount) :
    other.costAt (rearranged.carry values) = program.costAt values := by
  rw [Program.costAt_eq_sum (rearranged.length_carry values), Program.costAt_eq_sum lengthEq,
    ← rearranged.variableAt.sum_comp]
  simp only [getD_carry, rearranged.cost_eq]

theorem dot_carry (wellShaped : program.WellShaped) (otherShaped : other.WellShaped)
    {values : List Rat} (lengthEq : values.length = program.variableCount)
    (row : Fin other.constraintCount) :
    dot (other.constraintAt row).coefficients (rearranged.carry values) =
      rearranged.factor row *
        dot (program.constraintAt (rearranged.rowAt row)).coefficients values := by
  rw [Program.dot_coefficients otherShaped (rearranged.length_carry values),
    Program.dot_coefficients wellShaped lengthEq, ← rearranged.variableAt.sum_comp,
    Finset.mul_sum]
  simp only [getD_carry, rearranged.coefficient_eq, mul_assoc]

theorem admits_carry (wellShaped : program.WellShaped) (otherShaped : other.WellShaped)
    {values : List Rat} (admits : program.Admits values) :
    other.Admits (rearranged.carry values) where
  length_eq := rearranged.length_carry values
  nonneg := by
    intro value valueMem
    obtain ⟨position, rfl⟩ := List.mem_ofFn.mp valueMem
    have inside : (rearranged.variableAt position).val < values.length := by
      rw [admits.length_eq]
      exact (rearranged.variableAt position).isLt
    rw [List.getD_eq_getElem _ _ inside]
    exact admits.nonneg _ (List.getElem_mem inside)
  bounded := by
    intro constraint constraintMem
    obtain ⟨row, rfl⟩ := Program.exists_constraintAt constraintMem
    rw [rearranged.dot_carry wellShaped otherShaped admits.length_eq, rearranged.bound_eq]
    exact mul_le_mul_of_nonneg_left (admits.bounded _ (program.constraintAt_mem _))
      (rearranged.factor_pos row).le

include rearranged

theorem bounds_nonneg (bounds : ∀ constraint ∈ program.constraints, 0 ≤ constraint.bound) :
    ∀ constraint ∈ other.constraints, 0 ≤ constraint.bound := by
  intro constraint constraintMem
  obtain ⟨row, rfl⟩ := Program.exists_constraintAt constraintMem
  rw [rearranged.bound_eq]
  exact mul_nonneg (rearranged.factor_pos row).le (bounds _ (program.constraintAt_mem _))

theorem bestCost (wellShaped : program.WellShaped) (otherShaped : other.WellShaped) {cost : Rat}
    (found : program.BestCost cost) : other.BestCost cost where
  attained := by
    obtain ⟨values, admits, costEq⟩ := found.attained
    refine ⟨_, rearranged.admits_carry wellShaped otherShaped admits, ?_⟩
    rw [rearranged.costAt_carry admits.length_eq, costEq]
  best := by
    intro values admits
    rw [rearranged.objective_eq, ← rearranged.symm.costAt_carry admits.length_eq]
    exact found.best _ (rearranged.symm.admits_carry otherShaped wellShaped admits)

theorem endless (wellShaped : program.WellShaped) (otherShaped : other.WellShaped)
    (passed : program.Endless) : other.Endless := by
  intro bound
  obtain ⟨values, admits, passes⟩ := passed bound
  refine ⟨_, rearranged.admits_carry wellShaped otherShaped admits, ?_⟩
  rw [rearranged.objective_eq, rearranged.costAt_carry admits.length_eq]
  exact passes

end Rearrangement

namespace Program

variable {program other : Program Rat} {rule otherRule : PivotRule} {cap otherCap : Nat}
  {course : Course Rat program.constraintCount program.columnCount}
  {otherCourse : Course Rat other.constraintCount other.columnCount}

/-- What an exact solve that has reached a status says about the costs of admitted values. -/
def Verdict (program : Program Rat)
    (course : Course Rat program.constraintCount program.columnCount) : Status → Prop
  | .optimal => ∃ solution, course.solution? = some solution ∧ program.BestCost solution.cost
  | .unbounded => program.Endless

theorem verdict_of_solve (bounds : ∀ constraint ∈ program.constraints, 0 ≤ constraint.bound)
    (solved : program.solve 0 rule cap = .ok course) {status : Status}
    (reached : course.ending = .reached status) : program.Verdict course status := by
  obtain ⟨columns, outcome⟩ := exists_outcome (le_refl 0) solved
  cases status with
  | optimal =>
      have finished : ∀ column, 0 ≤ course.last.tableau.reducedCost column := by
        simpa using outcome.finish_of_optimal reached
      have admits := admits_shown outcome.seen outcome.wellShaped (feasible_last bounds solved)
      exact ⟨_, outcome.solution_of_optimal reached,
        { attained := ⟨_, admits, costAt_shown outcome.seen⟩
          best := fun _ => prefers_of_reducedCost_nonneg outcome.wellShaped
            outcome.seen.equivalent finished }⟩
  | unbounded =>
      obtain ⟨entering, improving, unlimited⟩ := outcome.unlimited_of_unbounded reached
      have balanced := (outcome.seen.equivalent.balanced_iff _).mpr
        (outcome.seen.canonical.balanced_ray entering)
      have objectiveEq := outcome.seen.equivalent.objective_eq _ balanced
      rw [outcome.seen.canonical.objective_ray] at objectiveEq
      have ray := ray_decisionPart outcome.wellShaped balanced
        (Tableau.ray_nonneg unlimited columns) (by simpa [objectiveEq] using improving)
      exact ray.exists_passes bounds

/-- Exact solves of two presentations of a program without negative bounds that both return, return
the same status, and with an optimal one the same cost. -/
theorem agree_of_rearrangement (rearranged : Rearrangement program other)
    (bounds : ∀ constraint ∈ program.constraints, 0 ≤ constraint.bound)
    (solved : program.solve 0 rule cap = .ok course)
    (otherSolved : other.solve 0 otherRule otherCap = .ok otherCourse)
    {status otherStatus : Status} (reached : course.ending = .reached status)
    (otherReached : otherCourse.ending = .reached otherStatus) :
    status = otherStatus ∧
      (status = .optimal → ∃ solution otherSolution, course.solution? = some solution ∧
        otherCourse.solution? = some otherSolution ∧ solution.cost = otherSolution.cost) := by
  have wellShaped := (solve_eq_ok_iff.mp solved).1
  have otherShaped := (solve_eq_ok_iff.mp otherSolved).1
  have verdict := verdict_of_solve bounds solved reached
  have otherVerdict :=
    verdict_of_solve (rearranged.bounds_nonneg bounds) otherSolved otherReached
  cases status with
  | optimal =>
      obtain ⟨solution, recorded, found⟩ := verdict
      have carried := rearranged.bestCost wellShaped otherShaped found
      cases otherStatus with
      | optimal =>
          obtain ⟨otherSolution, otherRecorded, otherFound⟩ := otherVerdict
          exact ⟨rfl, fun _ =>
            ⟨solution, otherSolution, recorded, otherRecorded, carried.unique otherFound⟩⟩
      | unbounded => exact absurd otherVerdict carried.not_endless
  | unbounded =>
      have carried := rearranged.endless wellShaped otherShaped verdict
      cases otherStatus with
      | optimal =>
          obtain ⟨otherSolution, -, otherFound⟩ := otherVerdict
          exact absurd carried otherFound.not_endless
      | unbounded => exact ⟨rfl, nofun⟩

def planned : Program Rat where
  objective := .maximize
  costs := [3, 5]
  constraints := [⟨[1, 0], .atMost, 4⟩, ⟨[0, 2], .atMost, 12⟩, ⟨[3, 2], .atMost, 18⟩]

/-- The production plan with its products exchanged and its constraints turned around, two of them
in other units. -/
def replanned : Program Rat where
  objective := .maximize
  costs := [5, 3]
  constraints := [⟨[1, 3 / 2], .atMost, 9⟩, ⟨[2, 0], .atMost, 12⟩, ⟨[0, 7], .atMost, 28⟩]

/-- The second plan is the first one in another order. -/
def planRearrangement : Rearrangement planned replanned where
  variableAt := (Fin.revPerm : Equiv.Perm (Fin 2))
  rowAt := (Fin.revPerm : Equiv.Perm (Fin 3))
  factor row := ([1 / 2, 1, 7] : List Rat).getD row.val 0
  factor_pos := by decide +kernel
  objective_eq := rfl
  cost_eq := by decide +kernel
  relation_eq := by decide +kernel
  coefficient_eq := by decide +kernel
  bound_eq := by decide +kernel

/-- Bland's rule on the first plan and the rule of the largest coefficient on the second one take
different numbers of pivots to the same cost. -/
theorem agree_planned_replanned :
    (planned.course 0 .bland 10).ending = .reached .optimal ∧
      (replanned.course 0 .dantzig 10).ending = .reached .optimal ∧
      (planned.course 0 .bland 10).pivots = 3 ∧ (replanned.course 0 .dantzig 10).pivots = 2 ∧
      ∃ solution otherSolution,
        (planned.course 0 .bland 10).solution? = some solution ∧
          (replanned.course 0 .dantzig 10).solution? = some otherSolution ∧
            solution.cost = otherSolution.cost := by
  have reached : (planned.course 0 .bland 10).ending = .reached .optimal := by decide +kernel
  have otherReached : (replanned.course 0 .dantzig 10).ending = .reached .optimal := by
    decide +kernel
  obtain ⟨-, agree⟩ := agree_of_rearrangement planRearrangement
    (by decide : ∀ constraint ∈ planned.constraints, 0 ≤ constraint.bound)
    (rfl : planned.solve 0 .bland 10 = .ok (planned.course 0 .bland 10))
    (rfl : replanned.solve 0 .dantzig 10 = .ok (replanned.course 0 .dantzig 10))
    reached otherReached
  exact ⟨reached, otherReached, by decide +kernel, by decide +kernel, agree rfl⟩

end Program

end SimplexReplay
