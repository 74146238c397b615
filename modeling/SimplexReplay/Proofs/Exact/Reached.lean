import Mathlib.Algebra.Order.Field.Rat
import Mathlib.Tactic.Linarith
import SimplexReplay.Proofs.Exact.Canonical
import SimplexReplay.Proofs.Run.Selection
import SimplexReplay.Proofs.Run.Trail

/-!
# Points of exact runs

Over rational numbers every two values compare.  A tableau is finished exactly when no reduced
cost lies below the negated tolerance, an entering column always improves, a column is unlimited
exactly when no entry exceeds the tolerance, and the leaving row has the least ratio of all rows
that limit the step.

So every point that a run reaches shows the equations of the initial tableau from the basis that the
point tracks: the tableau is canonical for this basis and equivalent to the initial one.  Without a
tolerance a pivot also keeps all right-hand sides from becoming negative.
-/

namespace SimplexReplay

instance : Scalar.Ordered Rat where
  lt_asymm := lt_asymm
  not_lt_trans _ first second := not_lt.mpr (le_trans (not_lt.mp second) (not_lt.mp first))
  beq_of_lt less := beq_eq_false_iff_ne.mpr (ne_of_gt less)

namespace Tableau

variable {m n : Nat} {tableau : Tableau Rat m n} {tolerance : Rat}

/-- Both rules find no entering column exactly when every reduced cost is at least the negated
tolerance. -/
theorem entering_eq_none_iff {rule : PivotRule} :
    tableau.entering tolerance rule = none ↔
      ∀ column, -tolerance ≤ tableau.reducedCost column := by
  simp only [entering_eq_none_iff_canImprove, canImprove_eq_false_iff, not_lt]

theorem reducedCost_lt_of_entering {rule : PivotRule} {column : Fin n}
    (entered : tableau.entering tolerance rule = some column) :
    tableau.reducedCost column < -tolerance :=
  improves_of_entering (fun _ => rfl) entered

theorem le_reducedCost_of_lt_entering {column : Fin n}
    (entered : tableau.entering tolerance .bland = some column) {other : Fin n}
    (before : other < column) : -tolerance ≤ tableau.reducedCost other :=
  not_lt.mp (not_improves_of_lt_entering entered before)

theorem leaving_eq {column : Fin (n + 1)} :
    tableau.leaving column tolerance =
      (firstLeast Prod.snd (tableau.limitingRows column tolerance)).map Prod.fst := by
  rw [leaving_eq_filter fun _ _ => rfl]
  cases firstLeast Prod.snd (tableau.limitingRows column tolerance) <;> rfl

theorem leaving_eq_none_iff {column : Fin (n + 1)} :
    tableau.leaving column tolerance = none ↔
      ∀ row, tableau.body row column ≤ tolerance := by
  simp only [leaving_eq, Option.map_eq_none_iff, firstLeast_eq_none_iff, limitingRows_eq_nil_iff,
    not_lt]

/-- The row that leaves has the least ratio of all rows that limit the step. -/
theorem ratio_le_of_leaving {column : Fin (n + 1)} {row : Fin m}
    (leaves : tableau.leaving column tolerance = some row) {other : Fin m}
    (limits : tolerance < tableau.body other column) :
    tableau.rhs row / tableau.body row column ≤
      tableau.rhs other / tableau.body other column := by
  rw [leaving_eq, Option.map_eq_some_iff] at leaves
  obtain ⟨limit, found, rfl⟩ := leaves
  have least := (hasLeastRatio_of_firstLeast (fun _ _ => rfl) found).2
  exact not_lt.mp (least.not_lt other limits)

end Tableau

variable {m n : Nat}

theorem ne_zero_of_tolerance_lt {tolerance : Rat} (nonneg : 0 ≤ tolerance) (value : Rat)
    (above : tolerance < value) : (value == 0) = false := by
  have positive : 0 < value := lt_of_le_of_lt nonneg above
  exact beq_eq_false_iff_ne.mpr (ne_of_gt positive)

namespace Tableau

/-- No right-hand side of a constraint row is negative. -/
def Feasible (tableau : Tableau Rat m n) : Prop :=
  ∀ row, 0 ≤ tableau.rhs row

theorem rhs_pivot (tableau : Tableau Rat m n) (row other : Fin m) (column : Fin (n + 1)) :
    (tableau.pivot row.succ column).rhs other =
      if other = row then tableau.rhs row / tableau.body row column
      else tableau.rhs other -
        tableau.body other column * (tableau.rhs row / tableau.body row column) := by
  simp only [rhs, body, entry_pivot_rat, Fin.succ_inj]

theorem objectiveCell_pivot (tableau : Tableau Rat m n) (row : Fin m) (column : Fin n) :
    (tableau.pivot row.succ column.castSucc).objectiveCell =
      tableau.objectiveCell - tableau.reducedCost column *
        (tableau.rhs row / tableau.body row column.castSucc) := by
  rw [objectiveCell, objectiveEntry, entry_pivot_rat, if_neg (Fin.succ_ne_zero row).symm]
  rfl

/-- A pivot in the row with the least ratio makes no right-hand side negative. -/
theorem Feasible.pivot {tableau : Tableau Rat m n} (feasible : tableau.Feasible) {row : Fin m}
    {column : Fin (n + 1)} (leaves : tableau.leaving column 0 = some row) :
    (tableau.pivot row.succ column).Feasible := by
  have positive : 0 < tableau.body row column := lt_body_of_leaving leaves
  have ratioNonneg : 0 ≤ tableau.rhs row / tableau.body row column :=
    div_nonneg (feasible row) (le_of_lt positive)
  intro other
  rw [rhs_pivot]
  by_cases same : other = row
  · rw [if_pos same]
    exact ratioNonneg
  · rw [if_neg same, sub_nonneg]
    by_cases limits : 0 < tableau.body other column
    · have least := ratio_le_of_leaving leaves limits
      calc
        tableau.body other column * (tableau.rhs row / tableau.body row column) ≤
            tableau.body other column * (tableau.rhs other / tableau.body other column) :=
          mul_le_mul_of_nonneg_left least (le_of_lt limits)
        _ = tableau.rhs other := mul_div_cancel₀ _ (ne_of_gt limits)
    · exact le_trans (mul_nonpos_of_nonpos_of_nonneg (not_lt.mp limits) ratioNonneg)
        (feasible other)

end Tableau

namespace Point

/-- The point shows the equations of an initial tableau from the basis that it tracks. -/
structure SeenFrom (initial : Tableau Rat m n) (point : Point Rat m n)
    (columns : Fin m → Fin n) : Prop where
  tracks : point.Tracks columns
  canonical : point.tableau.Canonical columns
  equivalent : initial.Equivalent point.tableau

variable {initial : Tableau Rat m n} {point next : Point Rat m n} {columns : Fin m → Fin n}

theorem SeenFrom.afterPivot (seen : point.SeenFrom initial columns) {row : Fin m}
    {column : Fin n} (nonzero : point.tableau.entry row.succ column.castSucc ≠ 0) :
    (point.afterPivot row column).SeenFrom initial (Function.update columns row column) where
  tracks := seen.tracks.afterPivot row column
  canonical := seen.canonical.pivot nonzero
  equivalent := seen.equivalent.trans (point.tableau.equivalent_pivot nonzero)

variable {setting : Setting Rat}

theorem body_pos_of_choice (nonneg : 0 ≤ setting.tolerance) {row : Fin m} {column : Fin n}
    (chosen : point.tableau.choice setting.tolerance setting.rule = .ok (.pivot row column)) :
    0 < point.tableau.body row column.castSucc :=
  lt_of_le_of_lt nonneg
    (Tableau.lt_body_of_leaving (Tableau.choice_eq_pivot_iff.mp chosen).2)

/-- Every point that a run reaches shows the initial equations from its own basis. -/
theorem Reaches.exists_seenFrom (nonneg : 0 ≤ setting.tolerance)
    (reaches : point.Reaches setting next) (seen : point.SeenFrom initial columns) :
    ∃ columns, next.SeenFrom initial columns := by
  induction reaches with
  | refl => exact ⟨columns, seen⟩
  | tail before leads ih =>
      obtain ⟨columns, seen⟩ := ih
      obtain ⟨row, column, chosen, rfl⟩ := leads
      exact ⟨_, seen.afterPivot (ne_of_gt (body_pos_of_choice nonneg chosen))⟩

/-- Without a tolerance a run keeps all right-hand sides from becoming negative. -/
theorem Reaches.feasible (toleranceEq : setting.tolerance = 0)
    (reaches : point.Reaches setting next) (feasible : point.tableau.Feasible) :
    next.tableau.Feasible := by
  induction reaches with
  | refl => exact feasible
  | tail before leads ih =>
      obtain ⟨row, column, chosen, rfl⟩ := leads
      rw [toleranceEq] at chosen
      exact ih.pivot (Tableau.choice_eq_pivot_iff.mp chosen).2

end Point

end SimplexReplay
