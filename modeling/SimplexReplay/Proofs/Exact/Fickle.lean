import SimplexReplay.Proofs.Exact.Passage

/-!
# Fickle columns

In a passage that comes back to its first set of basic columns, a column is fickle when it is basic
at some moments and not at others.  Under Bland's rule the last fickle column can only leave the
basis while a fickle column before it, basic in another row with the same ratio, stays.  So a run
that breaks no tie in this way never comes back.
-/

namespace SimplexReplay

variable {m n : Nat}

/-- If a column has a greater reduced cost in an equivalent tableau, some basic column makes up for
it. -/
theorem Tableau.exists_row_of_reducedCost_lt {first second : Tableau Rat m n}
    {columns : Fin m → Fin n} (equivalent : first.Equivalent second)
    (canonical : first.Canonical columns) {column : Fin n}
    (less : first.reducedCost column < second.reducedCost column) :
    ∃ row, 0 < second.reducedCost (columns row) * first.body row column.castSucc := by
  have costEq := equivalent.reducedCost_eq canonical column
  by_contra none
  have nonpos : ∀ row ∈ Finset.univ,
      second.reducedCost (columns row) * first.body row column.castSucc ≤ 0 := by
    intro row _
    by_contra positive
    exact none ⟨row, not_le.mp positive⟩
  have sumNonpos := Finset.sum_nonpos nonpos
  linarith

/-- A run in this setting pivots in a row although another row has the same ratio and an earlier
basic column. -/
def Point.PassesOver (setting : Setting Rat) (point : Point Rat m n) : Prop :=
  ∃ row other column,
    point.tableau.choice setting.tolerance setting.rule = .ok (.pivot row column) ∧
    point.tableau.ratio column.castSucc setting.tolerance other =
      point.tableau.ratio column.castSucc setting.tolerance row ∧
    ∃ leaves ∈ point.basis[row.val]?, ∃ stays ∈ point.basis[other.val]?, stays < leaves

instance (setting : Setting Rat) (point : Point Rat m n) : Decidable (point.PassesOver setting) :=
  inferInstanceAs (Decidable (∃ _ _ _, _ ∧ _ ∧ _))

/-- The column is basic at some moments of a passage and not at others. -/
structure Fickle (columns : Nat → Fin m → Fin n) (length : Nat) (column : Fin n) : Prop where
  held : ∃ moment ≤ length, column ∈ basicSet (columns moment)
  missed : ∃ moment ≤ length, column ∉ basicSet (columns moment)

namespace Passage

variable {setting : Setting Rat} {initial : Tableau Rat m n} {length : Nat}
  {point : Nat → Point Rat m n} {columns : Nat → Fin m → Fin n}
  (passage : Passage setting initial length point columns)
include passage

section Exact

variable (toleranceEq : setting.tolerance = 0)
include toleranceEq

theorem fickle_of_swaps {moment : Nat} (inside : moment < length) {row : Fin m} {column : Fin n}
    (swaps : Point.Swaps setting (point moment) (point (moment + 1)) (columns moment)
      (columns (moment + 1)) row column) :
    Fickle columns length column where
  held := ⟨moment + 1, inside, swaps.column_mem_next⟩
  missed := ⟨moment, le_of_lt inside,
    swaps.column_not_mem toleranceEq (passage.seen moment (le_of_lt inside)).canonical⟩

theorem exists_last_fickle (positive : 0 < length) :
    ∃ last, IsGreatest {column | Fickle columns length column} last := by
  classical
  obtain ⟨row, column, swaps⟩ := passage.swaps 0 positive
  have nonempty : (Finset.univ.filter (Fickle columns length)).Nonempty :=
    ⟨column, by simpa using passage.fickle_of_swaps toleranceEq positive swaps⟩
  have greatest := Finset.isGreatest_max' _ nonempty
  exact ⟨_, by simpa using greatest⟩

end Exact

section Returns

variable (same : basicSet (columns 0) = basicSet (columns length))
include same

theorem exists_leaves {column : Fin n} (fickle : Fickle columns length column) :
    ∃ moment < length, ∃ row entering,
      Point.Swaps setting (point moment) (point (moment + 1)) (columns moment)
        (columns (moment + 1)) row entering ∧ columns moment row = column := by
  have ends : column ∈ basicSet (columns 0) ↔ column ∈ basicSet (columns length) := by rw [same]
  obtain ⟨⟨moment, inside, basic, left⟩, -⟩ :=
    exists_loss_and_gain ends fickle.held fickle.missed
  obtain ⟨row, entering, swaps⟩ := passage.swaps moment inside
  obtain ⟨position, rfl⟩ := mem_basicSet.mp basic
  have positionEq := swaps.eq_row_of_not_mem_next left
  exact ⟨moment, inside, row, entering, swaps, congrArg (columns moment) positionEq.symm⟩

theorem exists_enters {column : Fin n} (fickle : Fickle columns length column) :
    ∃ moment < length, ∃ row,
      Point.Swaps setting (point moment) (point (moment + 1)) (columns moment)
        (columns (moment + 1)) row column := by
  have ends : column ∈ basicSet (columns 0) ↔ column ∈ basicSet (columns length) := by rw [same]
  obtain ⟨-, moment, inside, notBasic, enters⟩ :=
    exists_loss_and_gain ends fickle.held fickle.missed
  obtain ⟨row, entering, swaps⟩ := passage.swaps moment inside
  rcases swaps.mem_next enters with rfl | basic
  · exact ⟨moment, inside, row, swaps⟩
  · exact absurd basic notBasic

variable (toleranceEq : setting.tolerance = 0)
include toleranceEq

/-- When a row is passed over although its right-hand side is zero, it has the same ratio as the
row of the pivot. -/
theorem ratio_eq {moment : Nat} (inside : moment < length) {row other : Fin m}
    {column : Fin n}
    (swaps : Point.Swaps setting (point moment) (point (moment + 1)) (columns moment)
      (columns (moment + 1)) row column)
    (limits : 0 < (point moment).tableau.body other column.castSucc)
    (zero : (point moment).tableau.rhs other = 0) :
    (point moment).tableau.ratio column.castSucc setting.tolerance other =
      (point moment).tableau.ratio column.castSucc setting.tolerance row := by
  have rowZero := passage.rhs_eq_zero toleranceEq same inside swaps
  have rowLimits := swaps.body_pos toleranceEq
  simp only [Tableau.ratio, toleranceEq, limits, rowLimits, if_true, zero, rowZero, zero_div]

/-- Under Bland's rule the last fickle column leaves while an earlier fickle column limits the
step, too. -/
theorem exists_limit (bland : setting.rule = .bland) {last : Fin n}
    (greatest : IsGreatest {column | Fickle columns length column} last) :
    ∃ moment < length, ∃ row other entering,
      Point.Swaps setting (point moment) (point (moment + 1)) (columns moment)
        (columns (moment + 1)) row entering ∧
      columns moment row = last ∧ columns moment other < last ∧
      Fickle columns length (columns moment other) ∧
      0 < (point moment).tableau.body other entering.castSucc := by
  obtain ⟨leaving, leavingLt, row, entering, leavingSwaps, rowEq⟩ :=
    passage.exists_leaves same greatest.1
  obtain ⟨gaining, gainingLt, gainingRow, gainingSwaps⟩ := passage.exists_enters same greatest.1
  have leavingSeen := passage.seen leaving (le_of_lt leavingLt)
  have gainingSeen := passage.seen gaining (le_of_lt gainingLt)
  -- Before the last fickle column enters, no earlier column improves the cost.
  have noEarlier : ∀ earlier < last, 0 ≤ (point gaining).tableau.reducedCost earlier := by
    intro earlier before
    have passed := Tableau.le_reducedCost_of_lt_entering (bland ▸ gainingSwaps.entered) before
    simpa [toleranceEq] using passed
  -- When it leaves, an earlier column improves the cost.
  have enteringNe : entering ≠ last := by
    rintro rfl
    exact leavingSwaps.column_not_mem toleranceEq leavingSeen.canonical
      (mem_basicSet.mpr ⟨row, rowEq⟩)
  have enteringFickle := passage.fickle_of_swaps toleranceEq leavingLt leavingSwaps
  have enteringLt : entering < last := lt_of_le_of_ne (greatest.2 enteringFickle) enteringNe
  have costLt : (point leaving).tableau.reducedCost entering <
      (point gaining).tableau.reducedCost entering :=
    lt_of_lt_of_le (leavingSwaps.reducedCost_neg toleranceEq) (noEarlier entering enteringLt)
  obtain ⟨other, product⟩ := Tableau.exists_row_of_reducedCost_lt
    (passage.equivalent (le_of_lt leavingLt) (le_of_lt gainingLt)) leavingSeen.canonical costLt
  -- The row that makes up for the difference is not the row of the pivot, where the signs differ.
  have otherNe : columns leaving other ≠ last := by
    intro otherEq
    have sameRow : other = row := leavingSeen.canonical.injective (otherEq.trans rowEq.symm)
    rw [sameRow, rowEq] at product
    have negative := mul_neg_of_neg_of_pos (gainingSwaps.reducedCost_neg toleranceEq)
      (leavingSwaps.body_pos toleranceEq)
    exact lt_asymm product negative
  have missed : columns leaving other ∉ basicSet (columns gaining) := by
    intro basic
    rw [gainingSeen.canonical.reducedCost_of_mem basic, zero_mul] at product
    exact lt_irrefl 0 product
  have otherFickle : Fickle columns length (columns leaving other) :=
    ⟨⟨leaving, le_of_lt leavingLt, mem_basicSet.mpr ⟨other, rfl⟩⟩,
      ⟨gaining, le_of_lt gainingLt, missed⟩⟩
  have otherLt : columns leaving other < last :=
    lt_of_le_of_ne (greatest.2 otherFickle) otherNe
  exact ⟨leaving, leavingLt, row, other, entering, leavingSwaps, rowEq, otherLt, otherFickle,
    pos_of_mul_pos_right product (noEarlier _ otherLt)⟩

/-- Under Bland's rule a passage that comes back to its first basic columns breaks a tie in favour
of a later column. -/
theorem exists_passesOver (bland : setting.rule = .bland) (positive : 0 < length) :
    ∃ moment < length, (point moment).PassesOver setting := by
  obtain ⟨last, greatest⟩ := passage.exists_last_fickle toleranceEq positive
  obtain ⟨moment, inside, row, other, entering, swaps, rowEq, otherLt, fickle, limits⟩ :=
    passage.exists_limit same toleranceEq bland greatest
  have seen := passage.seen moment (le_of_lt inside)
  have zero : (point moment).tableau.rhs other = 0 := by
    rw [← seen.canonical.basicSolution_basic other]
    exact passage.basicSolution_eq_zero toleranceEq same fickle.missed (le_of_lt inside)
  refine ⟨moment, inside, row, other, entering, ?_, ?_, ?_⟩
  · exact Tableau.choice_eq_pivot_iff.mpr ⟨swaps.entered, swaps.leaves⟩
  · exact passage.ratio_eq same toleranceEq inside swaps limits zero
  · refine ⟨last.val, ?_, (columns moment other).val, seen.tracks.getElem? other, ?_⟩
    · rw [seen.tracks.getElem? row, rowEq, Option.mem_some]
    · exact Int.ofNat_lt.mpr otherLt

end Returns

end Passage

end SimplexReplay
