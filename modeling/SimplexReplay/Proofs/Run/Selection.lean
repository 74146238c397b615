import Mathlib.Order.Basic
import SimplexReplay.Proofs.LeastMember

/-!
# What the rules select

No column enters exactly when none improves the cost.  Bland's rule takes the first improving
column.  Dantzig's rule takes the first least reduced cost, as long as no reduced cost is undefined;
an undefined one comes before all others.  Where no ratio is undefined, the row that leaves is the
first one with the least ratio, unless this ratio is no ordinary number.
-/

namespace SimplexReplay.Tableau

variable {α : Type} [Scalar α] {m n : Nat} {tableau : Tableau α m n} {tolerance : α}

section Entering

variable {rule : PivotRule} {column : Fin n}

theorem improves_iff :
    tableau.improves tolerance column = true ↔ tableau.reducedCost column < -tolerance :=
  decide_eq_true_iff

theorem canImprove_iff :
    tableau.canImprove tolerance = true ↔ ∃ column, tableau.reducedCost column < -tolerance := by
  simp [canImprove, improves_iff]

theorem canImprove_eq_false_iff :
    tableau.canImprove tolerance = false ↔ ∀ column, ¬tableau.reducedCost column < -tolerance := by
  rw [Bool.eq_false_iff, ne_eq, canImprove_iff, not_exists]

theorem entering_dantzig_iff :
    tableau.entering tolerance .dantzig = some column ↔
      tableau.canImprove tolerance = true ∧ leastPosition tableau.reducedCost = some column := by
  by_cases improvable : tableau.canImprove tolerance = true <;> simp [entering, improvable]

/-- Both rules find no entering column exactly when no column improves the cost. -/
theorem entering_eq_none_iff_canImprove :
    tableau.entering tolerance rule = none ↔ tableau.canImprove tolerance = false := by
  cases rule with
  | bland => simp [entering, canImprove]
  | dantzig =>
      by_cases improvable : tableau.canImprove tolerance = true
      · obtain ⟨column, -⟩ := canImprove_iff.mp improvable
        have found := isSome_leastPosition tableau.reducedCost column
        simp [entering, improvable, Option.isSome_iff_ne_none.mp found]
      · simp [entering, improvable]

theorem improves_of_entering_bland (entered : tableau.entering tolerance .bland = some column) :
    tableau.reducedCost column < -tolerance :=
  improves_iff.mp (List.find?_some entered)

/-- Bland's rule passes over no improving column. -/
theorem not_improves_of_lt_entering (entered : tableau.entering tolerance .bland = some column)
    {other : Fin n} (before : other < column) : ¬tableau.reducedCost other < -tolerance := by
  rw [← improves_iff, eq_false_of_find?_finRange entered before]
  exact Bool.false_ne_true

variable [Scalar.Ordered α]
  (ordinary : ∀ column, Scalar.isNaN (tableau.reducedCost column) = false)
include ordinary

theorem firstLeast_of_entering_dantzig
    (entered : tableau.entering tolerance .dantzig = some column) :
    FirstLeast tableau.reducedCost (List.finRange n) column := by
  have least := (entering_dantzig_iff.mp entered).2
  rw [leastPosition_eq_firstLeast ordinary] at least
  exact firstLeast_of_eq_some (fun other _ => ordinary other) least

theorem improves_of_entering (entered : tableau.entering tolerance rule = some column) :
    tableau.reducedCost column < -tolerance := by
  cases rule with
  | bland => exact improves_of_entering_bland entered
  | dantzig =>
      obtain ⟨other, improving⟩ := canImprove_iff.mp (entering_dantzig_iff.mp entered).1
      have first := firstLeast_of_entering_dantzig ordinary entered
      -- Otherwise the improving column would not improve across the chosen one.
      by_contra notImproving
      exact Scalar.Ordered.not_lt_trans (ordinary column) (first.not_lt (List.mem_finRange other))
        notImproving improving

end Entering

section Leaving

variable {column : Fin (n + 1)}

/-- The ratio of the right-hand side of a row to its entry in a column, whether or not the row
limits the step. -/
def quotient (tableau : Tableau α m n) (column : Fin (n + 1)) (row : Fin m) : α :=
  tableau.rhs row / tableau.body row column

/-- The row is the first of those with the least ratio among the rows that limit the step. -/
structure HasLeastRatio (tableau : Tableau α m n) (column : Fin (n + 1)) (tolerance : α)
    (row : Fin m) : Prop where
  limits : tolerance < tableau.body row column
  not_lt : ∀ other, tolerance < tableau.body other column →
    ¬tableau.quotient column other < tableau.quotient column row
  lt_of_lt : ∀ other < row, tolerance < tableau.body other column →
    tableau.quotient column row < tableau.quotient column other

theorem leavingRow_eq_ok (someRow : m ≠ 0) (tableau : Tableau α m n) (column : Fin (n + 1))
    (tolerance : α) :
    tableau.leavingRow column tolerance = .ok (tableau.leaving column tolerance) := by
  rw [leavingRow, if_neg someRow]

theorem limitingRows_eq_nil_iff :
    tableau.limitingRows column tolerance = [] ↔ ∀ row, ¬tolerance < tableau.body row column := by
  rw [List.eq_nil_iff_forall_not_mem]
  constructor
  · intro noLimit row limits
    exact noLimit (row, tableau.quotient column row) (mem_limitingRows.mpr ⟨limits, rfl⟩)
  · intro bounded limit limitMem
    exact bounded limit.1 (mem_limitingRows.mp limitMem).1

theorem pairwise_limitingRows :
    (tableau.limitingRows column tolerance).Pairwise fun first second => first.1 < second.1 := by
  rw [limitingRows, List.pairwise_filterMap]
  refine (List.pairwise_lt_finRange m).imp ?_
  intro first second before limit isLimit other isOther
  obtain ⟨-, -, rfl⟩ := Option.map_eq_some_iff.mp isLimit
  obtain ⟨-, -, rfl⟩ := Option.map_eq_some_iff.mp isOther
  exact before

variable (ordinary : ∀ row, tolerance < tableau.body row column →
  Scalar.isNaN (tableau.quotient column row) = false)
include ordinary

theorem isNaN_of_mem_limitingRows {limit : Fin m × α}
    (limitMem : limit ∈ tableau.limitingRows column tolerance) :
    Scalar.isNaN limit.2 = false := by
  obtain ⟨limits, ratioEq⟩ := mem_limitingRows.mp limitMem
  rw [ratioEq]
  exact ordinary limit.1 limits

theorem leaving_eq_filter :
    tableau.leaving column tolerance =
      ((firstLeast Prod.snd (tableau.limitingRows column tolerance)).filter
        fun limit => Scalar.isFinite limit.2).map Prod.fst := by
  have noneUndefined : (tableau.limitingRows column tolerance).any
      (fun limit => Scalar.isNaN limit.2) = false := by
    apply List.any_eq_false.mpr
    intro limit limitMem
    simp [isNaN_of_mem_limitingRows ordinary limitMem]
  rw [leaving]
  simp only [noneUndefined, Bool.false_eq_true, if_false]
  cases firstLeast Prod.snd (tableau.limitingRows column tolerance) with
  | none => rfl
  | some limit =>
      by_cases finite : Scalar.isFinite limit.2 = true <;> simp [Option.filter_some, finite]

variable [Scalar.Ordered α]

theorem hasLeastRatio_of_firstLeast {limit : Fin m × α}
    (found : firstLeast Prod.snd (tableau.limitingRows column tolerance) = some limit) :
    limit.2 = tableau.quotient column limit.1 ∧
      tableau.HasLeastRatio column tolerance limit.1 := by
  have first := firstLeast_of_eq_some (fun _ => isNaN_of_mem_limitingRows ordinary) found
  obtain ⟨limits, ratioEq⟩ := mem_limitingRows.mp (mem_of_firstLeast_eq_some found)
  have listed : ∀ other, tolerance < tableau.body other column →
      (other, tableau.quotient column other) ∈ tableau.limitingRows column tolerance :=
    fun other otherLimits => mem_limitingRows.mpr ⟨otherLimits, rfl⟩
  rw [← quotient] at ratioEq
  refine ⟨ratioEq, limits, ?_, ?_⟩
  · intro other otherLimits
    rw [← ratioEq]
    exact first.not_lt (listed other otherLimits)
  · intro other before otherLimits
    rw [← ratioEq]
    exact first.lt_of_sorted Nat.lt_asymm pairwise_limitingRows (listed other otherLimits) before

end Leaving

end SimplexReplay.Tableau
