import SimplexReplay.Proofs.Endings
import SimplexReplay.Proofs.Exact.Recorded

/-!
# Bounds below zero

A solve starts from the slacks even where a bound is negative, and then may end optimal at values
that break a constraint although others keep them all.  What such an ending still says: the cost
is that of its values and bounds the cost of all values that keep every constraint, and its own
values keep them exactly if one of the recorded tableaus has no negative right-hand side.
-/

namespace SimplexReplay

namespace Program

variable {program : Program Rat}

section Shown

variable {point : Point Rat program.constraintCount program.columnCount}
  {columns : Fin program.constraintCount → Fin program.columnCount}
  (seen : point.SeenFrom program.initialTableau columns) (wellShaped : program.WellShaped)
include seen wellShaped

/-- The values that a point shows keep every constraint exactly if its tableau has no negative
right-hand side. -/
theorem admits_shown_iff :
    program.Admits (program.decisionPart (point.tableau.basicSolution columns)) ↔
      point.tableau.Feasible := by
  refine ⟨fun admits => ?_, admits_shown seen wellShaped⟩
  -- A decision column is bounded by its value, a slack by what its constraint leaves.
  have nonneg : ∀ column, 0 ≤ point.tableau.basicSolution columns column := by
    refine Fin.addCases (fun position => ?_) (fun row => ?_)
    · exact admits.nonneg _ (List.mem_ofFn.mpr ⟨position, rfl⟩)
    · have equation := dot_add_slack seen wellShaped row
      have bounded := admits.bounded _ (program.constraintAt_mem row)
      change 0 ≤ point.tableau.basicSolution columns (program.slackColumn row)
      linarith
  intro row
  have shown := nonneg (columns row)
  rwa [Tableau.basicSolution, spread_basic seen.canonical.injective] at shown

/-- As long as some values keep every constraint, no row with a negative right-hand side excludes
them. -/
theorem exists_body_neg_of_admits {values : List Rat} (admits : program.Admits values)
    {row : Fin program.constraintCount} (negative : point.tableau.rhs row < 0) :
    ∃ column : Fin program.columnCount, point.tableau.body row column.castSucc < 0 := by
  have balanced := (seen.equivalent.balanced_iff _).mp
    (balanced_completed wellShaped admits.length_eq) row
  rw [Tableau.rowValue_extended] at balanced
  change ∑ column : Fin program.columnCount,
    point.tableau.body row column.castSucc * program.completed values column +
      point.tableau.rhs row * -1 = 0 at balanced
  have sumNeg : ∑ column : Fin program.columnCount,
      point.tableau.body row column.castSucc * program.completed values column < 0 := by
    linarith
  -- The completed values are nowhere negative, so they need an entry that is.
  by_contra noneNegative
  push Not at noneNegative
  have sumNonneg : 0 ≤ ∑ column : Fin program.columnCount,
      point.tableau.body row column.castSucc * program.completed values column :=
    Finset.sum_nonneg fun column _ =>
      mul_nonneg (noneNegative column) (completed_nonneg admits column)
  linarith

end Shown

section Chronicle

variable {rule : PivotRule}
  {course : Course Rat program.constraintCount program.columnCount}
  {path : Nat → Point Rat program.constraintCount program.columnCount}
  (chronicle : program.Chronicle (program.setting 0 rule) course path)
include chronicle

theorem Chronicle.feasible_of_le {moment later : Nat} (le : moment ≤ later)
    (inside : later ≤ course.pivots) (feasible : (path moment).tableau.Feasible) :
    (path later).tableau.Feasible := by
  induction later, le using Nat.le_induction with
  | base => exact feasible
  | succ later _ ih =>
      obtain ⟨row, column, chosen, nextEq⟩ := chronicle.records.leads inside
      rw [nextEq]
      exact (ih (le_of_lt inside)).pivot (Tableau.choice_eq_pivot_iff.mp chosen).2

/-- Once no right-hand side is negative, none becomes so again. -/
theorem Chronicle.feasible_last_iff :
    course.last.tableau.Feasible ↔ ∃ step ∈ course.steps, step.tableau.Feasible := by
  constructor
  · intro feasible
    obtain ⟨step, found, pointEq⟩ := chronicle.exists_arrival (le_refl course.pivots)
    rw [chronicle.last_eq] at pointEq
    have tableauEq : step.tableau = course.last.tableau := congrArg Point.tableau pointEq
    exact ⟨step, List.mem_of_getElem? found, tableauEq ▸ feasible⟩
  · rintro ⟨step, recorded, feasible⟩
    obtain ⟨index, found⟩ := List.mem_iff_getElem?.mp recorded
    obtain ⟨pointEq, inside⟩ := chronicle.point_eq found
    have tableauEq : step.tableau = (path (index / 2)).tableau := congrArg Point.tableau pointEq
    rw [← chronicle.last_eq]
    exact chronicle.feasible_of_le inside (le_refl _) (tableauEq ▸ feasible)

end Chronicle

/-- What a solution says about a program with bounds of any sign, from the tableaus that led to
it. -/
structure Settles (program : Program Rat)
    (course : Course Rat program.constraintCount program.columnCount)
    (solution : Solution Rat) : Prop where
  cost_eq : program.costAt solution.values = solution.cost
  best : ∀ values, program.Admits values →
    program.objective.Prefers solution.cost (program.costAt values)
  admits_iff_last : program.Admits solution.values ↔ course.last.tableau.Feasible
  admits_iff_recorded : program.Admits solution.values ↔
    ∃ step ∈ course.steps, step.tableau.Feasible
  exists_neg : ∀ values, program.Admits values → ∀ row, course.last.tableau.rhs row < 0 →
    ∃ column : Fin program.columnCount, course.last.tableau.body row column.castSucc < 0

/-- An optimal exact solve from bounds of any sign settles what its cost bounds and when its
values keep every constraint. -/
theorem exists_settles_of_solve {rule : PivotRule} {cap : Nat}
    {course : Course Rat program.constraintCount program.columnCount}
    (solved : program.solve 0 rule cap = .ok course)
    (optimal : course.ending = .reached .optimal) :
    ∃ solution, course.solution? = some solution ∧ program.Settles course solution := by
  obtain ⟨columns, outcome⟩ := exists_outcome (le_refl 0) solved
  obtain ⟨path, chronicle⟩ := exists_chronicle_of_solve (le_refl 0) solved
  have finished : ∀ column, 0 ≤ course.last.tableau.reducedCost column := by
    simpa using outcome.finish_of_optimal optimal
  have admitsIff := admits_shown_iff outcome.seen outcome.wellShaped
  exact ⟨_, outcome.solution_of_optimal optimal,
    { cost_eq := costAt_shown outcome.seen
      best := fun values admits =>
        prefers_of_reducedCost_nonneg outcome.wellShaped outcome.seen.equivalent finished admits
      admits_iff_last := admitsIff
      admits_iff_recorded := admitsIff.trans chronicle.feasible_last_iff
      exists_neg := fun _ admits _ negative =>
        exists_body_neg_of_admits outcome.seen outcome.wellShaped admits negative }⟩

/-- A maximum whose first pivot has a negative ratio. -/
def submerged : Program Rat where
  objective := .maximize
  costs := [1, -2]
  constraints := [⟨[1, -1], .atMost, -1⟩, ⟨[1, 0], .atMost, 5⟩]

/-- The submerged program ends at `(-1, 0)`, although `(0, 1)` keeps both constraints. -/
theorem settles_submerged :
    submerged.Admits [0, 1] ∧
      submerged.solve 0 .bland 10 = .ok (submerged.course 0 .bland 10) ∧
      (submerged.course 0 .bland 10).ending = .reached .optimal ∧
      (submerged.course 0 .bland 10).pivots = 1 ∧
      (submerged.course 0 .bland 10).solution? = some ⟨[-1, 0], -1⟩ ∧
      submerged.Settles (submerged.course 0 .bland 10) ⟨[-1, 0], -1⟩ := by
  have admits : submerged.Admits [0, 1] := ⟨rfl, by decide, by decide +kernel⟩
  have solved : submerged.solve 0 .bland 10 = .ok (submerged.course 0 .bland 10) := rfl
  have optimal : (submerged.course 0 .bland 10).ending = .reached .optimal := by
    decide +kernel
  have expected : (submerged.course 0 .bland 10).solution? = some ⟨[-1, 0], -1⟩ := by
    decide +kernel
  obtain ⟨solution, recorded, settles⟩ := exists_settles_of_solve solved optimal
  obtain rfl := Option.some.inj (recorded.symm.trans expected)
  exact ⟨admits, solved, optimal, by decide +kernel, expected, settles⟩

/-- A maximum that no column improves at the origin, where its bound is broken. -/
def sunken : Program Rat where
  objective := .maximize
  costs := [-1]
  constraints := [⟨[-1], .atMost, -1⟩]

/-- The sunken program has admitted values, and its solution is not among them. -/
theorem not_admits_sunken :
    sunken.WellShaped ∧ (∀ constraint ∈ sunken.constraints, constraint.relation = .atMost) ∧
      sunken.Admits [1] ∧
      sunken.solve 0 .bland 10 = .ok (sunken.course 0 .bland 10) ∧
      (sunken.course 0 .bland 10).ending = .reached .optimal ∧
      (sunken.course 0 .bland 10).solution? = some ⟨[0], 0⟩ ∧ ¬sunken.Admits [0] := by
  have shaped : sunken.WellShaped := by
    simp [WellShaped, variableCount, constraintCount, sunken]
  have admits : sunken.Admits [1] := ⟨rfl, by decide, by decide +kernel⟩
  refine ⟨shaped, by decide, admits, rfl, by decide +kernel, by decide +kernel, ?_⟩
  intro broken
  have bounded := broken.bounded _ List.mem_cons_self
  revert bounded
  decide +kernel

end Program

end SimplexReplay
