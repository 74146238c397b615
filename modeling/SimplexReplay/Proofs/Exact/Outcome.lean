import SimplexReplay.Proofs.Exact.Equations
import SimplexReplay.Proofs.Exact.Reached

/-!
# Outcomes of exact solves

A solve in exact arithmetic ends at a point that shows the equations of the program from the
tracked basis.  If the course is optimal, no column improves the cost there and the recorded
solution is the one that the tableau shows; if it is unbounded, some column improves the cost and
no row limits it.
-/

namespace SimplexReplay

namespace Program

theorem costValue_eq {m n : Nat} (tableau : Tableau Rat m n) (objective : Objective) :
    tableau.costValue objective = -(objective.sign * tableau.objectiveCell) := by
  cases objective <;> simp [Tableau.costValue, Objective.sign]

variable (program : Program Rat)

theorem canonical_initialTableau : program.initialTableau.Canonical program.slackColumn := by
  intro row other
  refine Fin.cases ?_ (fun line => ?_) other
  · rw [initial_cost_slack, if_neg (Fin.succ_ne_zero row).symm]
  · rw [initial_slack]
    simp only [Fin.succ_inj, eq_comm]

theorem start_seenFrom :
    program.start.SeenFrom program.initialTableau program.slackColumn where
  tracks := program.start_tracks
  canonical := program.canonical_initialTableau
  equivalent := Tableau.Equivalent.refl program.initialTableau

theorem start_feasible (bounds : ∀ constraint ∈ program.constraints, 0 ≤ constraint.bound) :
    program.start.tableau.Feasible := by
  intro row
  change 0 ≤ program.initialTableau.entry row.succ (Fin.last program.columnCount)
  rw [initial_bound]
  exact bounds _ (program.constraintAt_mem row)

/-- The values that are read off for distinct basic columns are the decision part of the shown
solution. -/
theorem foldl_assign_eq_decisionPart
    (tableau : Tableau Rat program.constraintCount program.columnCount)
    {columns : Fin program.constraintCount → Fin program.columnCount}
    (distinct : Function.Injective columns) :
    (List.finRange program.constraintCount).foldl
        (tableau.assign program.variableCount columns)
        (List.replicate program.variableCount 0) =
      program.decisionPart (tableau.basicSolution columns) := by
  apply List.ext_getElem?
  intro position
  by_cases inside : position < program.variableCount
  · have shown : (program.decisionPart (tableau.basicSolution columns))[position]? =
        some (tableau.basicSolution columns (program.decisionColumn ⟨position, inside⟩)) := by
      simp [decisionPart, inside]
    rw [shown]
    by_cases basic : ∃ row, columns row = program.decisionColumn ⟨position, inside⟩
    · obtain ⟨row, rowEq⟩ := basic
      have positionEq : (columns row).val = position := congrArg Fin.val rowEq
      rw [← rowEq, Tableau.basicSolution, spread_basic distinct, ← positionEq]
      exact tableau.foldl_assign_getElem?_basic distinct (List.nodup_finRange _)
        (List.mem_finRange row) (positionEq ▸ inside) (List.length_replicate)
    · have notBasic : ∀ row, columns row ≠ program.decisionColumn ⟨position, inside⟩ :=
        fun row rowEq => basic ⟨row, rowEq⟩
      have others : ∀ row ∈ List.finRange program.constraintCount,
          (columns row).val ≠ position := fun row _ valueEq => notBasic row (Fin.ext valueEq)
      rw [Tableau.basicSolution, spread_of_not_basic notBasic,
        tableau.foldl_assign_getElem?_of_ne program.variableCount columns others]
      simp [inside]
  · rw [List.getElem?_eq_none, List.getElem?_eq_none]
    · simpa using Nat.not_lt.mp inside
    · simpa [Tableau.length_foldl_assign] using Nat.not_lt.mp inside

variable {program}

section Shown

variable {point : Point Rat program.constraintCount program.columnCount}
  {columns : Fin program.constraintCount → Fin program.columnCount}
  (seen : point.SeenFrom program.initialTableau columns)
include seen

theorem balanced_shown :
    program.initialTableau.Balanced (extended (point.tableau.basicSolution columns) (-1)) :=
  (seen.equivalent.balanced_iff _).mpr seen.canonical.balanced_basicSolution

theorem costAt_shown :
    program.costAt (program.decisionPart (point.tableau.basicSolution columns)) =
      point.tableau.costValue program.objective := by
  have objectiveEq := seen.equivalent.objective_eq _ (balanced_shown seen)
  rw [initial_objective_decisionPart, seen.canonical.objective_basicSolution] at objectiveEq
  rw [costValue_eq, ← mul_neg, ← objectiveEq, ← mul_assoc, Objective.sign_mul_sign, one_mul]

theorem dot_add_slack (wellShaped : program.WellShaped) (row : Fin program.constraintCount) :
    dot (program.constraintAt row).coefficients
        (program.decisionPart (point.tableau.basicSolution columns)) +
      point.tableau.basicSolution columns (program.slackColumn row) =
        (program.constraintAt row).bound := by
  have equation := balanced_shown seen row
  rw [initial_rowValue_decisionPart wellShaped] at equation
  linarith

theorem admits_shown (wellShaped : program.WellShaped) (feasible : point.tableau.Feasible) :
    program.Admits (program.decisionPart (point.tableau.basicSolution columns)) :=
  admits_decisionPart wellShaped (balanced_shown seen) (spread_nonneg columns feasible)

end Shown

/-- What an exact solve of a program ends with, from the basic columns that it has tracked. -/
structure Outcome (program : Program Rat) (tolerance : Rat) (rule : PivotRule)
    (course : Course Rat program.constraintCount program.columnCount)
    (columns : Fin program.constraintCount → Fin program.columnCount) : Prop where
  wellShaped : program.WellShaped
  seen : course.last.SeenFrom program.initialTableau columns
  finish_of_optimal : course.ending = .reached .optimal →
    ∀ column, -tolerance ≤ course.last.tableau.reducedCost column
  solution_of_optimal : course.ending = .reached .optimal →
    course.solution? = some
      ⟨program.decisionPart (course.last.tableau.basicSolution columns),
        course.last.tableau.costValue program.objective⟩
  unlimited_of_unbounded : course.ending = .reached .unbounded →
    ∃ column, course.last.tableau.reducedCost column < -tolerance ∧
      ∀ row, course.last.tableau.body row column.castSucc ≤ tolerance

section Solve

variable {tolerance : Rat} {rule : PivotRule} {cap : Nat}
  {course : Course Rat program.constraintCount program.columnCount}

/-- The course of an exact solve follows a trail from the start of the program. -/
theorem exists_trail_of_solve (nonneg : 0 ≤ tolerance)
    (solved : program.solve tolerance rule cap = .ok course) :
    ∃ inner, Trail (program.setting tolerance rule) cap 0 program.start inner ∧
      program.Wraps course inner := by
  obtain ⟨wellShaped, rfl⟩ := solve_eq_ok_iff.mp solved
  exact program.exists_trail wellShaped (ne_zero_of_tolerance_lt nonneg) rule cap

theorem exists_outcome (nonneg : 0 ≤ tolerance)
    (solved : program.solve tolerance rule cap = .ok course) :
    ∃ columns, program.Outcome tolerance rule course columns := by
  have wellShaped := (solve_eq_ok_iff.mp solved).1
  have someRow : program.constraintCount ≠ 0 := Nat.ne_of_gt wellShaped.2.1
  obtain ⟨inner, trail, wraps⟩ := exists_trail_of_solve nonneg solved
  obtain ⟨columns, seen⟩ := trail.reaches_last.exists_seenFrom nonneg program.start_seenFrom
  refine ⟨columns, wellShaped, wraps.last_eq ▸ seen, ?_, ?_, ?_⟩
  · intro optimal
    have chosen := trail.finish_of_optimal (wraps.ending_eq ▸ optimal)
    rw [wraps.last_eq]
    exact Tableau.entering_eq_none_iff.mp (Tableau.choice_eq_finish_iff.mp chosen)
  · intro optimal
    obtain ⟨solution, read, recorded⟩ := wraps.solution_eq (wraps.ending_eq ▸ optimal)
    rw [program.solutionOf_ok seen.tracks,
      program.foldl_assign_eq_decisionPart _ seen.canonical.injective] at read
    rw [recorded, wraps.last_eq, Except.ok.inj read]
  · intro unbounded
    obtain ⟨column, chosen⟩ := trail.unlimited_of_unbounded (wraps.ending_eq ▸ unbounded)
    obtain ⟨entered, stays⟩ := (Tableau.choice_eq_unlimited_iff someRow).mp chosen
    rw [wraps.last_eq]
    exact ⟨column, Tableau.reducedCost_lt_of_entering entered,
      Tableau.leaving_eq_none_iff.mp stays⟩

/-- An exact solve ends with a status unless its cap is met. -/
theorem ending_cases (nonneg : 0 ≤ tolerance)
    (solved : program.solve tolerance rule cap = .ok course) :
    course.ending = .reached .optimal ∨ course.ending = .reached .unbounded ∨
      course.ending = .capped := by
  obtain ⟨inner, trail, wraps⟩ := exists_trail_of_solve nonneg solved
  rw [wraps.ending_eq]
  exact trail.ending_cases

/-- A capped solve visits its start and one point for each allowed pivot. -/
theorem length_visited_of_capped (nonneg : 0 ≤ tolerance)
    (solved : program.solve tolerance rule cap = .ok course) (capped : course.ending = .capped) :
    course.visited.length = cap + 1 := by
  obtain ⟨inner, trail, wraps⟩ := exists_trail_of_solve nonneg solved
  have allMade := trail.length_visited_of_capped (wraps.ending_eq ▸ capped)
  rw [wraps.visited_eq, List.length_cons, allMade]

/-- Without a tolerance a solve from bounds that are not negative ends at a feasible tableau. -/
theorem feasible_last (bounds : ∀ constraint ∈ program.constraints, 0 ≤ constraint.bound)
    (solved : program.solve 0 rule cap = .ok course) : course.last.tableau.Feasible := by
  obtain ⟨inner, trail, wraps⟩ := exists_trail_of_solve (le_refl 0) solved
  rw [wraps.last_eq]
  exact trail.reaches_last.feasible rfl (program.start_feasible bounds)

end Solve

end Program

end SimplexReplay
