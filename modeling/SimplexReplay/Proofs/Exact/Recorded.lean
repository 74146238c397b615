import Mathlib
import SimplexReplay.Proofs.Exact.Outcome
import SimplexReplay.Proofs.Exact.Reached
import SimplexReplay.Proofs.Run.Chronicle

/-!
# Recorded steps of exact solves

In exact arithmetic nothing breaks the course of a solve, so it is recorded along a path of points.
Each of its steps shows the equations of the program from the basis recorded with it.

The ratio of the chosen row is the value that the entering column takes.  It is the least of the
recorded ratios, and the objective cell gains by it in proportion to the reduced cost.
-/

namespace SimplexReplay

namespace Program

variable {program : Program Rat} {tolerance : Rat} {rule : PivotRule} {cap : Nat}
  {course : Course Rat program.constraintCount program.columnCount}

theorem exists_chronicle_of_solve (nonneg : 0 ≤ tolerance)
    (solved : program.solve tolerance rule cap = .ok course) :
    ∃ path, program.Chronicle (program.setting tolerance rule) course path := by
  have endings := ending_cases nonneg solved
  obtain ⟨-, rfl⟩ := solve_eq_ok_iff.mp solved
  apply program.exists_chronicle
  intro fault broken
  rw [broken] at endings
  rcases endings with optimal | unbounded | capped
  · exact nomatch optimal
  · exact nomatch unbounded
  · exact nomatch capped

theorem exists_seenFrom_of_mem_steps (nonneg : 0 ≤ tolerance)
    (solved : program.solve tolerance rule cap = .ok course)
    {step : Step Rat program.constraintCount program.columnCount}
    (recorded : step ∈ course.steps) :
    ∃ columns, step.point.SeenFrom program.initialTableau columns := by
  obtain ⟨path, chronicle⟩ := exists_chronicle_of_solve nonneg solved
  obtain ⟨index, found⟩ := List.mem_iff_getElem?.mp recorded
  obtain ⟨pointEq, inside⟩ := chronicle.point_eq found
  rw [pointEq]
  exact (chronicle.reaches inside).exists_seenFrom nonneg program.start_seenFrom

end Program

variable {m n : Nat}

namespace Exchange

/-- The value that the entering column takes: the ratio of the chosen row. -/
def growth (exchange : Exchange Rat m n) : Rat :=
  (exchange.ratios.get exchange.row).getD 0

/-- The chosen row has a ratio, and none of the recorded ratios is less. -/
structure Least (exchange : Exchange Rat m n) : Prop where
  ratio_eq : exchange.ratios.get exchange.row = some exchange.growth
  growth_le : ∀ (row : Fin m) (ratio : Rat), exchange.ratios.get row = some ratio →
    exchange.growth ≤ ratio

namespace Links

variable {exchange : Exchange Rat m n} {setting : Setting Rat} {point next : Point Rat m n}
  (links : exchange.Links setting point next)
include links

theorem tolerance_lt_body :
    setting.tolerance < point.tableau.body exchange.row exchange.column.castSucc :=
  Tableau.lt_body_of_leaving (Tableau.choice_eq_pivot_iff.mp links.chosen).2

theorem reducedCost_lt :
    point.tableau.reducedCost exchange.column < -setting.tolerance :=
  Tableau.reducedCost_lt_of_entering (Tableau.choice_eq_pivot_iff.mp links.chosen).1

theorem get_ratios (row : Fin m) :
    exchange.ratios.get row =
      point.tableau.ratio exchange.column.castSucc setting.tolerance row := by
  rw [links.ratios_eq]
  simp [Tableau.ratios]

theorem ratio_eq : exchange.ratios.get exchange.row =
    some (point.tableau.rhs exchange.row /
      point.tableau.body exchange.row exchange.column.castSucc) := by
  rw [links.get_ratios, Tableau.ratio]
  exact if_pos links.tolerance_lt_body

theorem growth_eq : exchange.growth =
    point.tableau.rhs exchange.row /
      point.tableau.body exchange.row exchange.column.castSucc := by
  rw [growth, links.ratio_eq, Option.getD_some]

theorem growth_le {row : Fin m}
    (limits : setting.tolerance < point.tableau.body row exchange.column.castSucc) :
    exchange.growth ≤
      point.tableau.rhs row / point.tableau.body row exchange.column.castSucc := by
  rw [links.growth_eq]
  exact Tableau.ratio_le_of_leaving (Tableau.choice_eq_pivot_iff.mp links.chosen).2 limits

theorem least : exchange.Least where
  ratio_eq := by rw [links.growth_eq, links.ratio_eq]
  growth_le := by
    intro row ratio ratioEq
    rw [links.get_ratios, Tableau.ratio] at ratioEq
    split at ratioEq
    · rename_i limits
      rw [← Option.some.inj ratioEq]
      exact links.growth_le limits
    · contradiction

theorem rhs_next (other : Fin m) :
    next.tableau.rhs other =
      if other = exchange.row then exchange.growth
      else point.tableau.rhs other -
        point.tableau.body other exchange.column.castSucc * exchange.growth := by
  rw [links.next_eq, links.growth_eq]
  exact point.tableau.rhs_pivot exchange.row other exchange.column.castSucc

theorem objectiveCell_next :
    next.tableau.objectiveCell = point.tableau.objectiveCell -
      point.tableau.reducedCost exchange.column * exchange.growth := by
  rw [links.next_eq, links.growth_eq]
  exact point.tableau.objectiveCell_pivot exchange.row exchange.column

variable (nonneg : 0 ≤ setting.tolerance)
include nonneg

theorem growth_nonneg (feasible : point.tableau.Feasible) : 0 ≤ exchange.growth := by
  have positive : 0 < point.tableau.body exchange.row exchange.column.castSucc :=
    lt_of_le_of_lt nonneg links.tolerance_lt_body
  rw [links.growth_eq]
  exact div_nonneg (feasible exchange.row) (le_of_lt positive)

theorem objectiveCell_lt_iff :
    point.tableau.objectiveCell < next.tableau.objectiveCell ↔ 0 < exchange.growth := by
  have improving : point.tableau.reducedCost exchange.column < 0 :=
    lt_of_lt_of_le links.reducedCost_lt (neg_nonpos.mpr nonneg)
  rw [links.objectiveCell_next]
  constructor
  · intro grows
    have product : point.tableau.reducedCost exchange.column * exchange.growth < 0 := by linarith
    rcases mul_neg_iff.mp product with ⟨worsening, -⟩ | ⟨-, positive⟩
    · exact absurd worsening (lt_asymm improving)
    · exact positive
  · intro positive
    have product := mul_neg_of_neg_of_pos improving positive
    linarith

end Links

end Exchange

end SimplexReplay
