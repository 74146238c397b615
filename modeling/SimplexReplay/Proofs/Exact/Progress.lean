import SimplexReplay.Proofs.Exact.Reached

/-!
# Progress of exact runs

Without a tolerance a pivot never makes the objective cell smaller, and it leaves the cell as it is
exactly when the right-hand side of its row is zero.  Then all right-hand sides and the shown
solution stay as they are, too.  As the objective cell depends on the set of basic columns alone, a
run between two points with the same set makes no other pivots than these.
-/

namespace SimplexReplay

variable {m n : Nat}

def basicSet (columns : Fin m → Fin n) : Finset (Fin n) :=
  Finset.univ.image columns

@[simp]
theorem mem_basicSet {columns : Fin m → Fin n} {column : Fin n} :
    column ∈ basicSet columns ↔ ∃ row, columns row = column := by
  simp [basicSet]

namespace Tableau

theorem basicSolution_of_not_mem (tableau : Tableau Rat m n) {columns : Fin m → Fin n}
    {column : Fin n} (notBasic : column ∉ basicSet columns) :
    tableau.basicSolution columns column = 0 :=
  spread_of_not_basic (fun row rowEq => notBasic (mem_basicSet.mpr ⟨row, rowEq⟩)) tableau.rhs

theorem Canonical.basicSolution_basic {tableau : Tableau Rat m n} {columns : Fin m → Fin n}
    (canonical : tableau.Canonical columns) (row : Fin m) :
    tableau.basicSolution columns (columns row) = tableau.rhs row :=
  spread_basic canonical.injective tableau.rhs row

theorem Canonical.reducedCost_of_mem {tableau : Tableau Rat m n} {columns : Fin m → Fin n}
    (canonical : tableau.Canonical columns) {column : Fin n}
    (basic : column ∈ basicSet columns) : tableau.reducedCost column = 0 := by
  obtain ⟨row, rfl⟩ := mem_basicSet.mp basic
  exact canonical.reducedCost_basic row

/-- Equivalent tableaus with the same set of basic columns have the same objective cell. -/
theorem objectiveCell_eq_of_basicSet_eq {first second : Tableau Rat m n}
    {firstColumns secondColumns : Fin m → Fin n} (equivalent : first.Equivalent second)
    (firstCanonical : first.Canonical firstColumns)
    (secondCanonical : second.Canonical secondColumns)
    (same : basicSet firstColumns = basicSet secondColumns) :
    first.objectiveCell = second.objectiveCell := by
  have objectiveEq := equivalent.objective_eq _ firstCanonical.balanced_basicSolution
  rw [firstCanonical.objective_basicSolution, rowValue_basicSolution] at objectiveEq
  have vanishes : ∀ row ∈ Finset.univ,
      second.entry 0 (firstColumns row).castSucc * first.rhs row = 0 := by
    intro row _
    have basic : firstColumns row ∈ basicSet secondColumns :=
      same ▸ mem_basicSet.mpr ⟨row, rfl⟩
    have noCost : second.entry 0 (firstColumns row).castSucc = 0 :=
      secondCanonical.reducedCost_of_mem basic
    rw [noCost, zero_mul]
  rw [Finset.sum_eq_zero vanishes, zero_sub] at objectiveEq
  exact neg_injective objectiveEq

end Tableau

namespace Point

/-- A run in this setting exchanges the basic column of a row of one point, which gives the other
point and its basic columns. -/
structure Swaps (setting : Setting Rat) (point next : Point Rat m n)
    (columns nextColumns : Fin m → Fin n) (row : Fin m) (column : Fin n) : Prop where
  entered : point.tableau.entering setting.tolerance setting.rule = some column
  leaves : point.tableau.leaving column.castSucc setting.tolerance = some row
  tableau_eq : next.tableau = point.tableau.pivot row.succ column.castSucc
  columns_eq : nextColumns = Function.update columns row column

namespace Swaps

variable {setting : Setting Rat} {point next : Point Rat m n}
  {columns nextColumns : Fin m → Fin n} {row : Fin m} {column : Fin n}

theorem mem_next (swaps : Swaps setting point next columns nextColumns row column)
    {other : Fin n} (basic : other ∈ basicSet nextColumns) :
    other = column ∨ other ∈ basicSet columns := by
  obtain ⟨position, rfl⟩ := mem_basicSet.mp basic
  rw [swaps.columns_eq]
  by_cases same : position = row
  · simp [same]
  · rw [Function.update_of_ne same]
    exact Or.inr (mem_basicSet.mpr ⟨position, rfl⟩)

theorem column_mem_next (swaps : Swaps setting point next columns nextColumns row column) :
    column ∈ basicSet nextColumns :=
  mem_basicSet.mpr ⟨row, by simp [swaps.columns_eq]⟩

theorem eq_row_of_not_mem_next (swaps : Swaps setting point next columns nextColumns row column)
    {position : Fin m} (left : columns position ∉ basicSet nextColumns) : position = row := by
  by_contra different
  apply left
  exact mem_basicSet.mpr ⟨position, by rw [swaps.columns_eq, Function.update_of_ne different]⟩

variable (toleranceEq : setting.tolerance = 0)
include toleranceEq

theorem reducedCost_neg (swaps : Swaps setting point next columns nextColumns row column) :
    point.tableau.reducedCost column < 0 := by
  have improving := Tableau.reducedCost_lt_of_entering swaps.entered
  simpa [toleranceEq] using improving

theorem body_pos (swaps : Swaps setting point next columns nextColumns row column) :
    0 < point.tableau.body row column.castSucc :=
  toleranceEq ▸ Tableau.lt_body_of_leaving swaps.leaves

theorem column_not_mem (swaps : Swaps setting point next columns nextColumns row column)
    (canonical : point.tableau.Canonical columns) : column ∉ basicSet columns := by
  intro basic
  exact absurd (canonical.reducedCost_of_mem basic) (ne_of_lt (swaps.reducedCost_neg toleranceEq))

theorem objectiveCell_le (swaps : Swaps setting point next columns nextColumns row column)
    (feasible : point.tableau.Feasible) :
    point.tableau.objectiveCell ≤ next.tableau.objectiveCell := by
  have ratioNonneg : 0 ≤ point.tableau.rhs row / point.tableau.body row column.castSucc :=
    div_nonneg (feasible row) (le_of_lt (swaps.body_pos toleranceEq))
  have costNonpos : point.tableau.reducedCost column ≤ 0 :=
    le_of_lt (swaps.reducedCost_neg toleranceEq)
  have change := mul_nonpos_of_nonpos_of_nonneg costNonpos ratioNonneg
  rw [swaps.tableau_eq, Tableau.objectiveCell_pivot]
  linarith

/-- The objective cell stays as it is only when the right-hand side of the row is zero. -/
theorem rhs_eq_zero (swaps : Swaps setting point next columns nextColumns row column)
    (stays : next.tableau.objectiveCell = point.tableau.objectiveCell) :
    point.tableau.rhs row = 0 := by
  rw [swaps.tableau_eq, Tableau.objectiveCell_pivot] at stays
  have noChange : point.tableau.reducedCost column *
      (point.tableau.rhs row / point.tableau.body row column.castSucc) = 0 := by linarith
  rcases mul_eq_zero.mp noChange with noCost | noRatio
  · exact absurd noCost (ne_of_lt (swaps.reducedCost_neg toleranceEq))
  · rcases div_eq_zero_iff.mp noRatio with zero | noElement
    · exact zero
    · exact absurd noElement (ne_of_gt (swaps.body_pos toleranceEq))

omit toleranceEq in
theorem rhs_next (swaps : Swaps setting point next columns nextColumns row column)
    (zero : point.tableau.rhs row = 0) : next.tableau.rhs = point.tableau.rhs := by
  funext other
  rw [swaps.tableau_eq, Tableau.rhs_pivot, zero, zero_div, mul_zero, sub_zero]
  split
  · simp_all
  · rfl

omit toleranceEq in
/-- When the right-hand side of the row is zero, the shown solution does not change. -/
theorem basicSolution_next (swaps : Swaps setting point next columns nextColumns row column)
    (zero : point.tableau.rhs row = 0) :
    next.tableau.basicSolution nextColumns = point.tableau.basicSolution columns := by
  funext other
  rw [Tableau.basicSolution, Tableau.basicSolution, swaps.rhs_next zero, swaps.columns_eq]
  apply Finset.sum_congr rfl
  intro position _
  by_cases same : position = row
  · simp [same, zero]
  · rw [Function.update_of_ne same]

end Swaps

end Point

end SimplexReplay
