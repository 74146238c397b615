import Mathlib.Algebra.Order.BigOperators.Group.Finset
import Mathlib.Tactic.Linarith
import SimplexReplay.Proofs.Exact.RowValue

/-!
# Canonical tableaus

A tableau is canonical for a choice of one basic column per constraint row when these columns are
unit columns with reduced cost zero.  A canonical tableau shows a solution of its equations, which
is zero off the basic columns, and for every other column a direction along which the equations
keep holding.  A pivot keeps a tableau canonical for the exchanged basis.
-/

namespace SimplexReplay

section Weights

variable {m n : Nat}

/-- Values of the basic columns, with zero for all other columns. -/
def spread (columns : Fin m → Fin n) (values : Fin m → Rat) (column : Fin n) : Rat :=
  ∑ row, if columns row = column then values row else 0

/-- Weights of the columns with a weight of the right-hand side. -/
def extended (weights : Fin n → Rat) (last : Rat) (column : Fin (n + 1)) : Rat :=
  Fin.lastCases last weights column

@[simp]
theorem extended_castSucc (weights : Fin n → Rat) (last : Rat) (column : Fin n) :
    extended weights last column.castSucc = weights column := by
  simp [extended]

@[simp]
theorem extended_last (weights : Fin n → Rat) (last : Rat) :
    extended weights last (Fin.last n) = last := by
  simp [extended]

theorem sum_mul_spread (coefficients : Fin n → Rat) (columns : Fin m → Fin n)
    (values : Fin m → Rat) :
    ∑ column, coefficients column * spread columns values column =
      ∑ row, coefficients (columns row) * values row := by
  simp only [spread, Finset.mul_sum]
  rw [Finset.sum_comm]
  apply Finset.sum_congr rfl
  intro row _
  simp

theorem spread_basic {columns : Fin m → Fin n} (distinct : Function.Injective columns)
    (values : Fin m → Rat) (row : Fin m) : spread columns values (columns row) = values row := by
  simp [spread, distinct.eq_iff]

theorem spread_of_not_basic {columns : Fin m → Fin n} {column : Fin n}
    (notBasic : ∀ row, columns row ≠ column) (values : Fin m → Rat) :
    spread columns values column = 0 := by
  simp [spread, notBasic]

theorem spread_nonneg (columns : Fin m → Fin n) {values : Fin m → Rat}
    (nonneg : ∀ row, 0 ≤ values row) (column : Fin n) : 0 ≤ spread columns values column := by
  apply Finset.sum_nonneg
  intro row _
  split
  · exact nonneg row
  · exact le_refl 0

end Weights

namespace Tableau

variable {m n : Nat}

theorem rowValue_extended (tableau : Tableau Rat m n) (row : Fin (m + 1))
    (weights : Fin n → Rat) (last : Rat) :
    tableau.rowValue row (extended weights last) =
      ∑ column : Fin n, tableau.entry row column.castSucc * weights column +
        tableau.entry row (Fin.last n) * last := by
  rw [rowValue, Fin.sum_univ_castSucc]
  simp

/-- A column is one in a row and zero in all others. -/
def IsUnitColumn (tableau : Tableau Rat m n) (row : Fin (m + 1)) (column : Fin (n + 1)) : Prop :=
  ∀ other, tableau.entry other column = if other = row then 1 else 0

/-- The given columns, one for each constraint row, are unit columns with reduced cost zero. -/
def Canonical (tableau : Tableau Rat m n) (columns : Fin m → Fin n) : Prop :=
  ∀ row other, tableau.entry other (columns row).castSucc = if other = row.succ then 1 else 0

namespace Canonical

variable {tableau : Tableau Rat m n} {columns : Fin m → Fin n}

theorem injective (canonical : tableau.Canonical columns) : Function.Injective columns := by
  intro first second same
  by_contra different
  have firstEntry := canonical first first.succ
  have secondEntry := canonical second first.succ
  have rowsDiffer : first.succ ≠ second.succ := fun equal =>
    different (Fin.succ_injective m equal)
  rw [same, secondEntry, if_neg rowsDiffer, if_pos rfl] at firstEntry
  exact zero_ne_one firstEntry

theorem reducedCost_basic (canonical : tableau.Canonical columns) (row : Fin m) :
    tableau.reducedCost (columns row) = 0 := by
  have entryEq := canonical row 0
  rwa [if_neg (Fin.succ_ne_zero row).symm] at entryEq

theorem pivot (canonical : tableau.Canonical columns) {row : Fin m} {column : Fin n}
    (nonzero : tableau.entry row.succ column.castSucc ≠ 0) :
    (tableau.pivot row.succ column.castSucc).Canonical (Function.update columns row column) := by
  intro basic other
  rw [entry_pivot_rat]
  by_cases exchanged : basic = row
  · subst exchanged
    by_cases same : other = basic.succ <;> simp [same, nonzero]
  · -- The basic columns of the other rows are zero in the pivot row, so they stay as they are.
    have rowsDiffer : row.succ ≠ basic.succ := fun equal =>
      exchanged (Fin.succ_injective m equal).symm
    have clear : tableau.entry row.succ (columns basic).castSucc = 0 := by
      rw [canonical basic row.succ, if_neg rowsDiffer]
    rw [Function.update_of_ne exchanged, clear, zero_div]
    by_cases same : other = row.succ
    · rw [if_pos same, if_neg (same ▸ rowsDiffer)]
    · rw [if_neg same, mul_zero, sub_zero, canonical basic other]

end Canonical

/-- The solution that a tableau shows for its basic columns. -/
def basicSolution (tableau : Tableau Rat m n) (columns : Fin m → Fin n) : Fin n → Rat :=
  spread columns tableau.rhs

/-- The direction along which a column grows and the basic columns make up for it. -/
def ray (tableau : Tableau Rat m n) (columns : Fin m → Fin n) (entering : Fin n) (column : Fin n) :
    Rat :=
  (if column = entering then 1 else 0) -
    spread columns (fun row => tableau.body row entering.castSucc) column

theorem ray_nonneg {tableau : Tableau Rat m n} {entering : Fin n}
    (unlimited : ∀ row, tableau.body row entering.castSucc ≤ 0) (columns : Fin m → Fin n)
    (column : Fin n) : 0 ≤ tableau.ray columns entering column := by
  have makesUp : spread columns (fun row => tableau.body row entering.castSucc) column ≤ 0 := by
    apply Finset.sum_nonpos
    intro row _
    split
    · exact unlimited row
    · exact le_refl 0
  rw [ray]
  split <;> linarith

theorem rowValue_basicSolution (tableau shown : Tableau Rat m n) (columns : Fin m → Fin n)
    (row : Fin (m + 1)) :
    tableau.rowValue row (extended (shown.basicSolution columns) (-1)) =
      ∑ basic, tableau.entry row (columns basic).castSucc * shown.rhs basic -
        tableau.entry row (Fin.last n) := by
  rw [rowValue_extended, basicSolution,
    sum_mul_spread fun column : Fin n => tableau.entry row column.castSucc]
  ring

/-- The value that a direction shown by one tableau gives to a row of another one. -/
theorem rowValue_ray (tableau shown : Tableau Rat m n) (columns : Fin m → Fin n)
    (entering : Fin n) (row : Fin (m + 1)) :
    tableau.rowValue row (extended (shown.ray columns entering) 0) =
      tableau.entry row entering.castSucc -
        ∑ basic, tableau.entry row (columns basic).castSucc *
          shown.body basic entering.castSucc := by
  rw [rowValue_extended]
  simp only [ray, mul_sub, Finset.sum_sub_distrib,
    sum_mul_spread fun column : Fin n => tableau.entry row column.castSucc]
  simp

namespace Canonical

variable {tableau : Tableau Rat m n} {columns : Fin m → Fin n}

theorem balanced_basicSolution (canonical : tableau.Canonical columns) :
    tableau.Balanced (extended (tableau.basicSolution columns) (-1)) := by
  intro row
  rw [rowValue_basicSolution]
  simp [canonical _ row.succ, rhs, body]

theorem objective_basicSolution (canonical : tableau.Canonical columns) :
    tableau.rowValue 0 (extended (tableau.basicSolution columns) (-1)) =
      -tableau.objectiveCell := by
  rw [rowValue_basicSolution]
  simp [canonical _ 0, (Fin.succ_ne_zero _).symm, objectiveCell, objectiveEntry]

theorem balanced_ray (canonical : tableau.Canonical columns) (entering : Fin n) :
    tableau.Balanced (extended (tableau.ray columns entering) 0) := by
  intro row
  rw [rowValue_ray]
  simp [canonical _ row.succ, body]

theorem objective_ray (canonical : tableau.Canonical columns) (entering : Fin n) :
    tableau.rowValue 0 (extended (tableau.ray columns entering) 0) =
      tableau.reducedCost entering := by
  rw [rowValue_ray]
  simp [canonical _ 0, (Fin.succ_ne_zero _).symm, reducedCost, objectiveEntry]

end Canonical

/-- The reduced cost of a column is its initial one and what the initial basic columns add to it,
each by its own reduced cost. -/
theorem Equivalent.reducedCost_eq {initial tableau : Tableau Rat m n} {columns : Fin m → Fin n}
    (equivalent : initial.Equivalent tableau) (canonical : initial.Canonical columns)
    (column : Fin n) :
    tableau.reducedCost column =
      initial.reducedCost column +
        ∑ row, tableau.reducedCost (columns row) * initial.body row column.castSucc := by
  have objectiveEq := equivalent.objective_eq _ (canonical.balanced_ray column)
  rw [canonical.objective_ray, rowValue_ray] at objectiveEq
  exact sub_eq_iff_eq_add.mp objectiveEq.symm

/-- The objective cell is the initial one and what the initial right-hand sides add to it, each by
the reduced cost of its basic column. -/
theorem Equivalent.objectiveCell_eq {initial tableau : Tableau Rat m n} {columns : Fin m → Fin n}
    (equivalent : initial.Equivalent tableau) (canonical : initial.Canonical columns) :
    tableau.objectiveCell =
      initial.objectiveCell +
        ∑ row, tableau.reducedCost (columns row) * initial.rhs row := by
  have objectiveEq := equivalent.objective_eq _ canonical.balanced_basicSolution
  rw [canonical.objective_basicSolution, rowValue_basicSolution] at objectiveEq
  change -initial.objectiveCell =
    ∑ row, tableau.reducedCost (columns row) * initial.rhs row - tableau.objectiveCell
    at objectiveEq
  linarith

end Tableau

end SimplexReplay
