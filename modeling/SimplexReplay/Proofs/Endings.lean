import SimplexReplay.Proofs.Exact.Outcome

/-!
# How exact solves end

When an exact solve of a program without negative bounds ends optimal, it records a solution that
keeps every constraint, read as an upper bound, whose cost is the recorded one, and which no other
values that keep them improve on.

A solve that ends unbounded has met a column that improves the cost while no row limits it.  The
direction along which this column grows is a ray of the program: it never leaves the constraints,
read as upper bounds, and improves the cost all the way.  From bounds that are not negative the ray
starts at the origin and passes every cost.
-/

namespace SimplexReplay

namespace Program

variable {program : Program Rat}

/-- A solution that keeps every constraint, read as an upper bound, at the best cost. -/
structure Optimum (program : Program Rat) (solution : Solution Rat) : Prop where
  admits : program.Admits solution.values
  cost_eq : program.costAt solution.values = solution.cost
  best : ∀ values, program.Admits values →
    program.objective.Prefers solution.cost (program.costAt values)

/-- When no reduced cost is negative, no admitted values improve on the objective cell. -/
theorem prefers_of_reducedCost_nonneg (wellShaped : program.WellShaped)
    {tableau : Tableau Rat program.constraintCount program.columnCount}
    (equivalent : program.initialTableau.Equivalent tableau)
    (finished : ∀ column, 0 ≤ tableau.reducedCost column) {values : List Rat}
    (admits : program.Admits values) :
    program.objective.Prefers (tableau.costValue program.objective)
      (program.costAt values) := by
  have balanced := balanced_completed wellShaped admits.length_eq
  have objectiveEq := equivalent.objective_eq _ balanced
  rw [initial_objective_decisionPart, decisionPart_completed admits.length_eq,
    Tableau.rowValue_extended] at objectiveEq
  have sumNonneg : 0 ≤ ∑ column : Fin program.columnCount,
      tableau.entry 0 column.castSucc * program.completed values column :=
    Finset.sum_nonneg fun column _ =>
      mul_nonneg (finished column) (completed_nonneg admits column)
  rw [Objective.prefers_iff, costValue_eq, ← mul_neg, ← mul_assoc, Objective.sign_mul_sign,
    one_mul, objectiveEq]
  change -tableau.entry 0 (Fin.last program.columnCount) ≤ _
  linarith

/-- An optimal exact solve of a program without negative bounds records an optimum. -/
theorem exists_optimum_of_solve {rule : PivotRule} {cap : Nat}
    {course : Course Rat program.constraintCount program.columnCount}
    (bounds : ∀ constraint ∈ program.constraints, 0 ≤ constraint.bound)
    (solved : program.solve 0 rule cap = .ok course)
    (optimal : course.ending = .reached .optimal) :
    ∃ solution, course.solution? = some solution ∧ program.Optimum solution := by
  obtain ⟨columns, outcome⟩ := exists_outcome (le_refl 0) solved
  have finished : ∀ column, 0 ≤ course.last.tableau.reducedCost column := by
    simpa using outcome.finish_of_optimal optimal
  have feasible := feasible_last bounds solved
  exact ⟨_, outcome.solution_of_optimal optimal,
    { admits := admits_shown outcome.seen outcome.wellShaped feasible
      cost_eq := costAt_shown outcome.seen
      best := fun values admits =>
        prefers_of_reducedCost_nonneg outcome.wellShaped outcome.seen.equivalent finished
          admits }⟩

/-- A maximum whose run meets a tie of two rows and then a pivot that changes no value. -/
def tied : Program Rat where
  objective := .maximize
  costs := [3, 5]
  constraints :=
    [⟨[1, 0], .atMost, 4⟩, ⟨[0, 2], .equal, 12⟩, ⟨[3, 2], .atLeast, 12⟩]

theorem optimum_tied :
    (tied.course 0 .bland 10).solution? = some ⟨[0, 6], 30⟩ ∧
      tied.Optimum ⟨[0, 6], 30⟩ := by
  obtain ⟨solution, recorded, optimum⟩ :=
    exists_optimum_of_solve (by decide : ∀ constraint ∈ tied.constraints, 0 ≤ constraint.bound)
      (rfl : tied.solve 0 .bland 10 = .ok (tied.course 0 .bland 10)) (by decide +kernel)
  have expected : (tied.course 0 .bland 10).solution? = some ⟨[0, 6], 30⟩ := by
    decide +kernel
  obtain rfl : solution = ⟨[0, 6], 30⟩ := Option.some.inj (recorded.symm.trans expected)
  exact ⟨expected, optimum⟩

end Program

theorem dot_map_mul (factor : Rat) (coefficients values : List Rat) :
    dot coefficients (values.map (factor * ·)) = factor * dot coefficients values := by
  induction coefficients generalizing values with
  | nil => simp [dot]
  | cons coefficient rest ih =>
      cases values with
      | nil => simp [dot]
      | cons value others =>
          have tail := ih others
          simp only [dot, List.map_cons, List.zipWith_cons_cons, List.sum_cons] at tail ⊢
          rw [tail]
          ring

namespace Objective

/-- A change of the cost is an improvement. -/
def Improves (objective : Objective) (change : Rat) : Prop :=
  match objective with
  | maximize => 0 < change
  | minimize => change < 0

/-- A cost passes a bound: it is greater than the bound, or less than its negation. -/
def Passes (objective : Objective) (bound cost : Rat) : Prop :=
  match objective with
  | maximize => bound < cost
  | minimize => cost < -bound

theorem improves_iff {objective : Objective} {change : Rat} :
    objective.Improves change ↔ objective.sign * change < 0 := by
  cases objective <;> simp [Improves, sign]

theorem passes_iff {objective : Objective} {bound cost : Rat} :
    objective.Passes bound cost ↔ objective.sign * cost < -bound := by
  cases objective <;> simp [Passes, sign]

end Objective

namespace Program

variable {program : Program Rat}

/-- A direction that keeps every constraint, read as an upper bound, and improves the cost. -/
structure Ray (program : Program Rat) (direction : List Rat) : Prop where
  length_eq : direction.length = program.variableCount
  nonneg : ∀ value ∈ direction, 0 ≤ value
  keeps : ∀ constraint ∈ program.constraints, dot constraint.coefficients direction ≤ 0
  improves : program.objective.Improves (program.costAt direction)

theorem Ray.admits_map {direction : List Rat} (ray : program.Ray direction)
    (bounds : ∀ constraint ∈ program.constraints, 0 ≤ constraint.bound) {length : Rat}
    (nonneg : 0 ≤ length) : program.Admits (direction.map (length * ·)) where
  length_eq := by simpa using ray.length_eq
  nonneg := by
    intro value valueMem
    obtain ⟨entry, entryMem, rfl⟩ := List.mem_map.mp valueMem
    exact mul_nonneg nonneg (ray.nonneg entry entryMem)
  bounded := by
    intro constraint constraintMem
    rw [dot_map_mul]
    exact le_trans (mul_nonpos_of_nonneg_of_nonpos nonneg (ray.keeps constraint constraintMem))
      (bounds constraint constraintMem)

theorem exists_length {gain : Rat} (gains : gain < 0) (bound : Rat) :
    ∃ length, 0 ≤ length ∧ length * gain < -bound := by
  have nonzero : gain ≠ 0 := ne_of_lt gains
  have partNonneg : 0 ≤ |bound| / -gain :=
    div_nonneg (abs_nonneg bound) (le_of_lt (neg_pos.mpr gains))
  refine ⟨|bound| / -gain + 1, by linarith, ?_⟩
  calc
    (|bound| / -gain + 1) * gain = -|bound| + gain := by
      field_simp
    _ < -|bound| := by linarith
    _ ≤ -bound := neg_le_neg (le_abs_self bound)

/-- Along a ray from the origin the cost passes every bound. -/
theorem Ray.exists_passes {direction : List Rat} (ray : program.Ray direction)
    (bounds : ∀ constraint ∈ program.constraints, 0 ≤ constraint.bound) (bound : Rat) :
    ∃ values, program.Admits values ∧
      program.objective.Passes bound (program.costAt values) := by
  obtain ⟨length, nonneg, enough⟩ := exists_length (Objective.improves_iff.mp ray.improves) bound
  refine ⟨direction.map (length * ·), ray.admits_map bounds nonneg, ?_⟩
  rw [Objective.passes_iff, costAt, dot_map_mul, mul_left_comm]
  exact enough

theorem ray_decisionPart (wellShaped : program.WellShaped)
    {weights : Fin program.columnCount → Rat}
    (balanced : program.initialTableau.Balanced (extended weights 0))
    (nonneg : ∀ column, 0 ≤ weights column)
    (improves : program.initialTableau.rowValue 0 (extended weights 0) < 0) :
    program.Ray (program.decisionPart weights) where
  length_eq := program.length_decisionPart weights
  nonneg := program.decisionPart_nonneg nonneg
  keeps := by
    intro constraint constraintMem
    simpa using dot_decisionPart_le wellShaped balanced nonneg constraintMem
  improves := by
    rw [Objective.improves_iff, ← initial_objective_decisionPart]
    exact improves

/-- An unbounded exact solve has a ray, on which values that keep every constraint pass every cost
if no bound is negative. -/
theorem exists_ray_of_solve {rule : PivotRule} {cap : Nat}
    {course : Course Rat program.constraintCount program.columnCount}
    (solved : program.solve 0 rule cap = .ok course)
    (unbounded : course.ending = .reached .unbounded) :
    (∃ direction, program.Ray direction) ∧
      ((∀ constraint ∈ program.constraints, 0 ≤ constraint.bound) →
        ∀ bound, ∃ values, program.Admits values ∧
          program.objective.Passes bound (program.costAt values)) := by
  obtain ⟨columns, outcome⟩ := exists_outcome (le_refl 0) solved
  obtain ⟨entering, improving, unlimited⟩ := outcome.unlimited_of_unbounded unbounded
  have balanced := (outcome.seen.equivalent.balanced_iff _).mpr
    (outcome.seen.canonical.balanced_ray entering)
  have objectiveEq := outcome.seen.equivalent.objective_eq _ balanced
  rw [outcome.seen.canonical.objective_ray] at objectiveEq
  have ray := ray_decisionPart outcome.wellShaped balanced
    (Tableau.ray_nonneg unlimited columns) (by simpa [objectiveEq] using improving)
  exact ⟨⟨_, ray⟩, fun bounds bound => ray.exists_passes bounds bound⟩

/-- A minimum that falls without limit once the first variable has pushed out a slack. -/
def falling : Program Rat where
  objective := .minimize
  costs := [-1, -3]
  constraints := [⟨[1, -1], .equal, 0⟩, ⟨[2, -5], .atLeast, 7⟩]

/-- The falling program is found to be unbounded after a pivot on its first constraint. -/
theorem unbounded_falling :
    (falling.course 0 .bland 4).ending = .reached .unbounded ∧
      (falling.course 0 .bland 4).pivots = 1 ∧
      (∃ direction, falling.Ray direction) ∧
      ∀ bound, ∃ values, falling.Admits values ∧ falling.costAt values < -bound := by
  have unbounded : (falling.course 0 .bland 4).ending = .reached .unbounded := by decide +kernel
  obtain ⟨ray, passes⟩ :=
    exists_ray_of_solve
      (rfl : falling.solve 0 .bland 4 = .ok (falling.course 0 .bland 4)) unbounded
  exact ⟨unbounded, by decide +kernel, ray, passes (by decide)⟩

end Program

end SimplexReplay
