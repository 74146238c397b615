import Mathlib.Algebra.BigOperators.Field
import Mathlib.Algebra.BigOperators.Fin
import Mathlib.Algebra.Order.Field.Rat
import Mathlib.Tactic.FieldSimp
import Mathlib.Tactic.Ring
import SimplexReplay.Tableau.Pivot

/-!
# Row values

Weights of all columns, the right-hand side included, give every row a value.  Weights that give
every constraint row the value zero balance the tableau: a solution of the equations does so with
weight `-1` on the right-hand side, a direction with weight zero.  A pivot on a nonzero element of
a constraint row keeps the balanced weights and the value that they give to the objective row.
-/

namespace SimplexReplay

namespace Tableau

variable {m n : Nat}

theorem entry_pivot_rat (tableau : Tableau Rat m n) (row other : Fin (m + 1))
    (column position : Fin (n + 1)) :
    (tableau.pivot row column).entry other position =
      if other = row then tableau.entry row position / tableau.entry row column
      else tableau.entry other position -
        tableau.entry other column *
          (tableau.entry row position / tableau.entry row column) :=
  entry_pivot tableau row other column position

def rowValue (tableau : Tableau Rat m n) (row : Fin (m + 1)) (weights : Fin (n + 1) → Rat) :
    Rat :=
  ∑ column, tableau.entry row column * weights column

/-- The weights give every constraint row the value zero. -/
def Balanced (tableau : Tableau Rat m n) (weights : Fin (n + 1) → Rat) : Prop :=
  ∀ row : Fin m, tableau.rowValue row.succ weights = 0

theorem rowValue_pivot_self (tableau : Tableau Rat m n) (row : Fin (m + 1))
    (column : Fin (n + 1)) (weights : Fin (n + 1) → Rat) :
    (tableau.pivot row column).rowValue row weights =
      tableau.rowValue row weights / tableau.entry row column := by
  rw [rowValue, rowValue, Finset.sum_div]
  apply Finset.sum_congr rfl
  intro position _
  rw [entry_pivot_rat, if_pos rfl]
  ring

theorem rowValue_pivot_of_ne (tableau : Tableau Rat m n) {row other : Fin (m + 1)}
    (different : other ≠ row) (column : Fin (n + 1)) (weights : Fin (n + 1) → Rat) :
    (tableau.pivot row column).rowValue other weights =
      tableau.rowValue other weights - tableau.entry other column *
        (tableau.pivot row column).rowValue row weights := by
  simp only [rowValue, Finset.mul_sum, ← Finset.sum_sub_distrib]
  apply Finset.sum_congr rfl
  intro position _
  rw [entry_pivot_rat, entry_pivot_rat, if_neg different, if_pos rfl]
  ring

/-- A pivot in a row is undone by scaling the row back. -/
theorem rowValue_eq_mul_pivot (tableau : Tableau Rat m n) {row : Fin (m + 1)}
    {column : Fin (n + 1)} (nonzero : tableau.entry row column ≠ 0)
    (weights : Fin (n + 1) → Rat) :
    tableau.rowValue row weights =
      tableau.entry row column * (tableau.pivot row column).rowValue row weights := by
  rw [rowValue_pivot_self]
  field_simp

/-- A pivot keeps the weights that give the value zero to all of some rows, if the row of the pivot
is one of them. -/
theorem rowValue_pivot_eq_zero_iff (tableau : Tableau Rat m n) {row : Fin (m + 1)}
    {column : Fin (n + 1)} (nonzero : tableau.entry row column ≠ 0) {rows : Set (Fin (m + 1))}
    (rowMem : row ∈ rows) (weights : Fin (n + 1) → Rat) :
    (∀ other ∈ rows, (tableau.pivot row column).rowValue other weights = 0) ↔
      ∀ other ∈ rows, tableau.rowValue other weights = 0 := by
  constructor
  · intro balanced other otherMem
    by_cases same : other = row
    · rw [same, rowValue_eq_mul_pivot tableau nonzero, balanced row rowMem, mul_zero]
    · have reduced := tableau.rowValue_pivot_of_ne same column weights
      rw [balanced other otherMem, balanced row rowMem] at reduced
      simpa using reduced.symm
  · intro balanced
    have scaled : (tableau.pivot row column).rowValue row weights = 0 := by
      rw [rowValue_pivot_self, balanced row rowMem, zero_div]
    intro other otherMem
    by_cases same : other = row
    · rw [same, scaled]
    · rw [tableau.rowValue_pivot_of_ne same, scaled, balanced other otherMem]
      simp

theorem balanced_pivot_iff (tableau : Tableau Rat m n) {row : Fin m} {column : Fin (n + 1)}
    (nonzero : tableau.entry row.succ column ≠ 0) (weights : Fin (n + 1) → Rat) :
    (tableau.pivot row.succ column).Balanced weights ↔ tableau.Balanced weights := by
  have kept := tableau.rowValue_pivot_eq_zero_iff nonzero (Set.mem_range_self row) weights
  rwa [Set.forall_mem_range, Set.forall_mem_range] at kept

/-- Two tableaus have the same balanced weights, and these give their objective rows the same
value. -/
structure Equivalent (first second : Tableau Rat m n) : Prop where
  balanced_iff : ∀ weights, first.Balanced weights ↔ second.Balanced weights
  objective_eq : ∀ weights, first.Balanced weights →
    first.rowValue 0 weights = second.rowValue 0 weights

theorem Equivalent.refl (tableau : Tableau Rat m n) : tableau.Equivalent tableau :=
  ⟨fun _ => Iff.rfl, fun _ _ => rfl⟩

theorem Equivalent.symm {first second : Tableau Rat m n} (equivalent : first.Equivalent second) :
    second.Equivalent first :=
  ⟨fun weights => (equivalent.balanced_iff weights).symm,
    fun weights balanced =>
      (equivalent.objective_eq weights ((equivalent.balanced_iff weights).mpr balanced)).symm⟩

theorem Equivalent.trans {first second third : Tableau Rat m n}
    (before : first.Equivalent second) (after : second.Equivalent third) :
    first.Equivalent third :=
  ⟨fun weights => (before.balanced_iff weights).trans (after.balanced_iff weights),
    fun weights balanced =>
      (before.objective_eq weights balanced).trans
        (after.objective_eq weights ((before.balanced_iff weights).mp balanced))⟩

/-- A pivot in a constraint row leads to an equivalent tableau. -/
theorem equivalent_pivot (tableau : Tableau Rat m n) {row : Fin m} {column : Fin (n + 1)}
    (nonzero : tableau.entry row.succ column ≠ 0) :
    tableau.Equivalent (tableau.pivot row.succ column) where
  balanced_iff weights := (tableau.balanced_pivot_iff nonzero weights).symm
  objective_eq weights balanced := by
    have scaled : (tableau.pivot row.succ column).rowValue row.succ weights = 0 :=
      (tableau.balanced_pivot_iff nonzero weights).mpr balanced row
    rw [tableau.rowValue_pivot_of_ne (Fin.succ_ne_zero row).symm, scaled, mul_zero, sub_zero]

end Tableau

end SimplexReplay
