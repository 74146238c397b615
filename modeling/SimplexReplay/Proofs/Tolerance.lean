import SimplexReplay.Proofs.Exact.Recorded
import SimplexReplay.Proofs.Exact.Shortfall

/-!
# What a tolerance costs

When an exact solve with a tolerance ends optimal, its solution keeps every constraint up to the
shortfalls of the pivots that it has made.  A row whose entry is positive but within the tolerance
is left out of the comparison of ratios and then pays for the whole growth of the entering column,
so that the loss can exceed the tolerance by far.  A solve that leaves out no such row loses
nothing.
-/

namespace SimplexReplay

namespace Program

variable {program : Program Rat}

/-- Values that keep every constraint, read as an upper bound, up to a loss. -/
structure AdmitsUpTo (program : Program Rat) (loss : Rat) (values : List Rat) : Prop where
  length_eq : values.length = program.variableCount
  neg_le : ∀ value ∈ values, -loss ≤ value
  bounded : ∀ constraint ∈ program.constraints,
    dot constraint.coefficients values ≤ constraint.bound + loss

theorem AdmitsUpTo.mono {loss more : Rat} {values : List Rat}
    (admits : program.AdmitsUpTo loss values) (le : loss ≤ more) :
    program.AdmitsUpTo more values where
  length_eq := admits.length_eq
  neg_le := fun value valueMem => le_trans (neg_le_neg le) (admits.neg_le value valueMem)
  bounded := fun constraint constraintMem =>
    le_trans (admits.bounded constraint constraintMem) (add_le_add_right le _)

section Shown

variable {point : Point Rat program.constraintCount program.columnCount}
  {columns : Fin program.constraintCount → Fin program.columnCount} {loss : Rat}
  (seen : point.SeenFrom program.initialTableau columns) (nonneg : 0 ≤ loss)
  (feasible : point.tableau.FeasibleUpTo loss)
include seen nonneg feasible

theorem neg_le_basicSolution (column : Fin program.columnCount) :
    -loss ≤ point.tableau.basicSolution columns column := by
  by_cases basic : ∃ row, columns row = column
  · obtain ⟨row, rfl⟩ := basic
    rw [Tableau.basicSolution, spread_basic seen.canonical.injective]
    exact feasible row
  · rw [Tableau.basicSolution, spread_of_not_basic (not_exists.mp basic)]
    exact neg_nonpos.mpr nonneg

theorem admitsUpTo_shown (wellShaped : program.WellShaped) :
    program.AdmitsUpTo loss (program.decisionPart (point.tableau.basicSolution columns)) where
  length_eq := program.length_decisionPart _
  neg_le := by
    intro value valueMem
    obtain ⟨position, rfl⟩ := List.mem_ofFn.mp valueMem
    exact neg_le_basicSolution seen nonneg feasible (program.decisionColumn position)
  bounded := by
    intro constraint constraintMem
    obtain ⟨row, rfl⟩ := exists_constraintAt constraintMem
    have equation := dot_add_slack seen wellShaped row
    linarith [neg_le_basicSolution seen nonneg feasible (program.slackColumn row)]

end Shown

/-- No announced pivot leaves out a row with a positive entry for the tolerance. -/
def NeglectsNothing (tolerance : Rat)
    (steps : List (Step Rat program.constraintCount program.columnCount)) : Prop :=
  ∀ step ∈ steps, ∀ exchange, step.event = .pivot exchange →
    ¬step.tableau.Neglects exchange.column.castSucc tolerance

section Chronicle

variable {tolerance : Rat} {rule : PivotRule}
  {course : Course Rat program.constraintCount program.columnCount}
  {path : Nat → Point Rat program.constraintCount program.columnCount}
  (chronicle : program.Chronicle (program.setting tolerance rule) course path)
  (nonneg : 0 ≤ tolerance)
  (bounds : ∀ constraint ∈ program.constraints, 0 ≤ constraint.bound)
include chronicle nonneg bounds

theorem feasibleUpTo_of_recorded {moment : Nat} (inside : moment ≤ course.pivots) :
    (path moment).tableau.FeasibleUpTo
      (totalShortfall tolerance (course.steps.take (2 * moment + 1))) := by
  induction moment with
  | zero =>
      have feasible : (path 0).tableau.FeasibleUpTo 0 := by
        rw [chronicle.start_eq, Tableau.feasibleUpTo_zero_iff]
        exact program.start_feasible bounds
      exact feasible.mono (totalShortfall_nonneg tolerance _)
  | succ moment ih =>
      obtain ⟨exchange, links, before, after⟩ := chronicle.records.turn moment inside
      rw [List.getElem?_tail] at before after
      have next := links.feasibleUpTo_next nonneg (totalShortfall_nonneg tolerance _)
        (ih (le_of_lt inside))
      -- Of the two steps of a pivot only the first one announces it.
      have sumEq : totalShortfall tolerance (course.steps.take (2 * (moment + 1) + 1)) =
          totalShortfall tolerance (course.steps.take (2 * moment + 1)) +
            exchange.shortfall (path moment).tableau tolerance := by
        rw [Nat.mul_succ, totalShortfall_take_succ after, totalShortfall_take_succ before]
        exact add_zero _
      rw [sumEq]
      exact next

theorem feasible_of_neglectsNothing (heeds : NeglectsNothing tolerance course.steps)
    {moment : Nat} (inside : moment ≤ course.pivots) : (path moment).tableau.Feasible := by
  induction moment with
  | zero =>
      rw [chronicle.start_eq]
      exact program.start_feasible bounds
  | succ moment ih =>
      obtain ⟨exchange, links, before, -⟩ := chronicle.records.turn moment inside
      rw [List.getElem?_tail] at before
      have feasible := ih (le_of_lt inside)
      have heeded := heeds _ (List.mem_of_getElem? before) exchange rfl
      have lossless := Exchange.shortfall_eq_zero (links.growth_nonneg nonneg feasible) heeded
      have next := links.feasibleUpTo_next nonneg (le_refl 0)
        (Tableau.feasibleUpTo_zero_iff.mpr feasible)
      rw [zero_add] at next
      exact Tableau.feasibleUpTo_zero_iff.mp (lossless ▸ next)

theorem totalShortfall_eq_zero_of_neglectsNothing
    (heeds : NeglectsNothing tolerance course.steps) :
    totalShortfall tolerance course.steps = 0 := by
  apply totalShortfall_eq_zero
  intro step recorded
  obtain ⟨index, found⟩ := List.mem_iff_getElem?.mp recorded
  rw [Step.shortfall]
  split
  · rename_i exchange announced
    obtain ⟨-, inside, links⟩ := chronicle.links_of_pivot found announced
    have feasible := feasible_of_neglectsNothing chronicle nonneg bounds heeds (le_of_lt inside)
    exact Exchange.shortfall_eq_zero (links.growth_nonneg nonneg feasible)
      (heeds step recorded exchange announced)
  all_goals rfl

end Chronicle

/-- An optimal exact solve from bounds that are not negative keeps every constraint up to the
shortfalls of its pivots. -/
theorem exists_admitsUpTo_of_solve {tolerance : Rat} {rule : PivotRule} {cap : Nat}
    {course : Course Rat program.constraintCount program.columnCount}
    (nonneg : 0 ≤ tolerance)
    (bounds : ∀ constraint ∈ program.constraints, 0 ≤ constraint.bound)
    (solved : program.solve tolerance rule cap = .ok course)
    (optimal : course.ending = .reached .optimal) :
    ∃ solution, course.solution? = some solution ∧
      (∀ loss, totalShortfall tolerance course.steps ≤ loss →
        program.AdmitsUpTo loss solution.values) ∧
      ((∀ step ∈ course.steps, ∀ exchange, step.event = .pivot exchange →
          0 ≤ exchange.growth) →
        totalShortfall tolerance course.steps ≤
          tolerance * totalNeglectedGrowth tolerance course.steps) ∧
      (NeglectsNothing tolerance course.steps →
        totalShortfall tolerance course.steps = 0) := by
  obtain ⟨columns, outcome⟩ := exists_outcome nonneg solved
  obtain ⟨path, chronicle⟩ := exists_chronicle_of_solve nonneg solved
  refine ⟨_, outcome.solution_of_optimal optimal, ?_, ?_, ?_⟩
  · intro loss enough
    have feasible := feasibleUpTo_of_recorded chronicle nonneg bounds (le_refl course.pivots)
    rw [chronicle.last_eq] at feasible
    have feasibleUpTo := feasible.mono
      (le_trans (totalShortfall_take_le tolerance course.steps _) enough)
    have lossNonneg := le_trans (totalShortfall_nonneg tolerance course.steps) enough
    exact admitsUpTo_shown outcome.seen lossNonneg feasibleUpTo outcome.wellShaped
  · intro growing
    exact totalShortfall_le_mul nonneg growing
  · intro heeds
    exact totalShortfall_eq_zero_of_neglectsNothing chronicle nonneg bounds heeds

/-- A maximum whose second pivot has a negative ratio. -/
def carried : Program Rat where
  objective := .maximize
  costs := [1, 1]
  constraints := [⟨[1 / 8, 1 / 4], .atMost, 0⟩, ⟨[1, 0], .atMost, 1⟩]

/-- The first pivot of the carried program takes `1 / 8` from the row left out, the second makes
`1 / 2` of it. -/
theorem admitsUpTo_carried :
    (0 : Rat) ≤ 1 / 8 ∧ (∀ constraint ∈ carried.constraints, 0 ≤ constraint.bound) ∧
      carried.solve (1 / 8) .bland 2 = .ok (carried.course (1 / 8) .bland 2) ∧
      (carried.course (1 / 8) .bland 2).ending = .reached .optimal ∧
      (carried.course (1 / 8) .bland 2).solution? = some ⟨[1, -1 / 2], 1 / 2⟩ ∧
      carried.AdmitsUpTo (1 / 8 + 1 / 2) [1, -1 / 2] := by
  have nonneg : (0 : Rat) ≤ 1 / 8 := by decide +kernel
  have bounds : ∀ constraint ∈ carried.constraints, 0 ≤ constraint.bound := by decide
  have solved : carried.solve (1 / 8) .bland 2 = .ok (carried.course (1 / 8) .bland 2) := rfl
  have optimal : (carried.course (1 / 8) .bland 2).ending = .reached .optimal := by
    decide +kernel
  have expected : (carried.course (1 / 8) .bland 2).solution? = some ⟨[1, -1 / 2], 1 / 2⟩ := by
    decide +kernel
  have enough : totalShortfall (1 / 8) (carried.course (1 / 8) .bland 2).steps ≤
      1 / 8 + 1 / 2 := by
    decide +kernel
  obtain ⟨solution, recorded, admits, -, -⟩ :=
    exists_admitsUpTo_of_solve nonneg bounds solved optimal
  obtain rfl := Option.some.inj (recorded.symm.trans expected)
  exact ⟨nonneg, bounds, solved, optimal, expected, admits _ enough⟩

/-- A maximum with a row whose entry is as small as a tolerance of `1 / 10 ^ 10`. -/
def steep : Program Rat where
  objective := .maximize
  costs := [1]
  constraints := [⟨[1 / 10 ^ 10], .atMost, 0⟩, ⟨[1], .atMost, 10 ^ 12⟩]

/-- The solution of the steep program exceeds its first bound by `100`, and a value of the carried
program lies below zero by `1 / 2`. -/
theorem steep_exceeds_and_carried_below :
    (steep.WellShaped ∧ (∀ constraint ∈ steep.constraints, 0 ≤ constraint.bound) ∧
      steep.solve (1 / 10 ^ 10) .bland 1 = .ok (steep.course (1 / 10 ^ 10) .bland 1) ∧
      (steep.course (1 / 10 ^ 10) .bland 1).ending = .reached .optimal ∧
      (steep.course (1 / 10 ^ 10) .bland 1).solution? = some ⟨[10 ^ 12], 10 ^ 12⟩ ∧
      dot [1 / 10 ^ 10] [(10 : Rat) ^ 12] = 0 + 100 ∧
      ¬steep.AdmitsUpTo (1 / 10 ^ 10) [10 ^ 12]) ∧
    carried.WellShaped ∧ (∀ constraint ∈ carried.constraints, 0 ≤ constraint.bound) ∧
      carried.solve (1 / 8) .bland 2 = .ok (carried.course (1 / 8) .bland 2) ∧
      (carried.course (1 / 8) .bland 2).ending = .reached .optimal ∧
      (carried.course (1 / 8) .bland 2).solution? = some ⟨[1, -1 / 2], 1 / 2⟩ ∧
      ¬carried.AdmitsUpTo (1 / 8) [1, -1 / 2] := by
  have steepShaped : steep.WellShaped := by
    simp [WellShaped, variableCount, constraintCount, steep]
  have carriedShaped : carried.WellShaped := by
    simp [WellShaped, variableCount, constraintCount, carried]
  have exceeds : dot [1 / 10 ^ 10] [(10 : Rat) ^ 12] = 0 + 100 := by decide +kernel
  refine ⟨⟨steepShaped, by decide +kernel, rfl, by decide +kernel, by decide +kernel, exceeds, ?_⟩,
    carriedShaped, by decide, rfl, by decide +kernel, by decide +kernel, ?_⟩
  · intro admits
    have bounded := admits.bounded _ List.mem_cons_self
    rw [exceeds] at bounded
    norm_num at bounded
  · intro admits
    have above := admits.neg_le (-1 / 2) (by simp)
    norm_num at above

end Program

end SimplexReplay
