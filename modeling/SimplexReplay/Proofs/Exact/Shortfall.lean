import Mathlib
import SimplexReplay.Proofs.Exact.Recorded

/-!
# What a pivot can fall short by

With a tolerance the rows whose entry in the entering column is positive but small are left out of
the comparison of ratios, and a pivot can make their right-hand sides negative.  The shortfall of a
pivot bounds by how much; a run is then feasible up to the sum of its shortfalls.
-/

namespace SimplexReplay

variable {m n : Nat}

namespace Tableau

/-- No right-hand side of a constraint row lies below zero by more than the loss. -/
def FeasibleUpTo (tableau : Tableau Rat m n) (loss : Rat) : Prop :=
  ∀ row, -loss ≤ tableau.rhs row

/-- Some row has a positive entry in the column that is left out for the tolerance. -/
def Neglects (tableau : Tableau Rat m n) (column : Fin (n + 1)) (tolerance : Rat) : Prop :=
  ∃ row, 0 < tableau.body row column ∧ tableau.body row column ≤ tolerance

instance (tableau : Tableau Rat m n) (column : Fin (n + 1)) (tolerance : Rat) :
    Decidable (tableau.Neglects column tolerance) :=
  inferInstanceAs (Decidable (∃ _, _))

theorem feasibleUpTo_zero_iff {tableau : Tableau Rat m n} :
    tableau.FeasibleUpTo 0 ↔ tableau.Feasible := by
  simp [FeasibleUpTo, Feasible]

theorem FeasibleUpTo.mono {tableau : Tableau Rat m n} {loss more : Rat}
    (feasible : tableau.FeasibleUpTo loss) (le : loss ≤ more) : tableau.FeasibleUpTo more :=
  fun row => le_trans (neg_le_neg le) (feasible row)

end Tableau

namespace Exchange

/-- By how much an exchange can take the right-hand side of a row below zero: a row that is left
out of the comparison gives its entry for each unit of growth, and the chosen row shows the
growth. -/
def drop (exchange : Exchange Rat m n) (tableau : Tableau Rat m n) (tolerance : Rat)
    (row : Fin m) : Rat :=
  if row = exchange.row then -exchange.growth
  else if tableau.body row exchange.column.castSucc ≤ tolerance then
    tableau.body row exchange.column.castSucc * exchange.growth
  else 0

/-- The most by which an exchange can take a right-hand side below zero. -/
def shortfall (exchange : Exchange Rat m n) (tableau : Tableau Rat m n) (tolerance : Rat) : Rat :=
  Finset.univ.fold max 0 (exchange.drop tableau tolerance)

section Shortfall

variable {exchange : Exchange Rat m n} {tableau : Tableau Rat m n} {tolerance : Rat}

theorem shortfall_le_iff {limit : Rat} :
    exchange.shortfall tableau tolerance ≤ limit ↔
      0 ≤ limit ∧ ∀ row, exchange.drop tableau tolerance row ≤ limit := by
  simp [shortfall, Finset.fold_max_le]

theorem shortfall_nonneg : 0 ≤ exchange.shortfall tableau tolerance :=
  (shortfall_le_iff.mp (le_refl _)).1

theorem drop_le_shortfall (row : Fin m) :
    exchange.drop tableau tolerance row ≤ exchange.shortfall tableau tolerance :=
  (shortfall_le_iff.mp (le_refl _)).2 row

variable (growing : 0 ≤ exchange.growth)
include growing

theorem shortfall_le_mul (nonneg : 0 ≤ tolerance) :
    exchange.shortfall tableau tolerance ≤ tolerance * exchange.growth := by
  have product := mul_nonneg nonneg growing
  refine shortfall_le_iff.mpr ⟨product, ?_⟩
  intro row
  rw [drop]
  split_ifs with chosen small
  · exact le_trans (neg_nonpos.mpr growing) product
  · exact mul_le_mul_of_nonneg_right small growing
  · exact product

theorem shortfall_eq_zero
    (heeds : ¬tableau.Neglects exchange.column.castSucc tolerance) :
    exchange.shortfall tableau tolerance = 0 := by
  refine le_antisymm (shortfall_le_iff.mpr ⟨le_refl 0, ?_⟩) shortfall_nonneg
  intro row
  rw [drop]
  split_ifs with chosen small
  · exact neg_nonpos.mpr growing
  · -- A row that is left out although none is neglected has no positive entry.
    have notPositive : tableau.body row exchange.column.castSucc ≤ 0 := by
      by_contra positive
      exact heeds ⟨row, not_le.mp positive, small⟩
    exact mul_nonpos_of_nonpos_of_nonneg notPositive growing
  · exact le_refl 0

end Shortfall

/-- A pivot loses no more feasibility than its shortfall. -/
theorem Links.feasibleUpTo_next {exchange : Exchange Rat m n} {setting : Setting Rat}
    {point next : Point Rat m n} (links : exchange.Links setting point next)
    (nonneg : 0 ≤ setting.tolerance) {loss : Rat} (lossNonneg : 0 ≤ loss)
    (feasible : point.tableau.FeasibleUpTo loss) :
    next.tableau.FeasibleUpTo
      (loss + exchange.shortfall point.tableau setting.tolerance) := by
  intro row
  have least : exchange.drop point.tableau setting.tolerance row ≤
      exchange.shortfall point.tableau setting.tolerance := Exchange.drop_le_shortfall row
  rw [links.rhs_next]
  rw [drop] at least
  by_cases chosen : row = exchange.row
  · rw [if_pos chosen] at least ⊢
    linarith
  · rw [if_neg chosen] at least ⊢
    by_cases small : point.tableau.body row exchange.column.castSucc ≤ setting.tolerance
    · rw [if_pos small] at least
      linarith [feasible row]
    · -- A row that takes part in the comparison allows the growth.
      rw [if_neg small] at least
      have positive := lt_of_le_of_lt nonneg (not_le.mp small)
      have allowed := links.growth_le (not_le.mp small)
      rw [le_div_iff₀ positive, mul_comm] at allowed
      linarith

end Exchange

namespace Step

/-- The shortfall of the pivot that a step announces. -/
def shortfall (tolerance : Rat) (step : Step Rat m n) : Rat :=
  match step.event with
  | .pivot exchange => exchange.shortfall step.tableau tolerance
  | .initial | .afterPivot _ | .unbounded _ _ _ | .optimal _ => 0

/-- The growth in the pivot that a step announces, if some row with a positive entry is left out of
it for the tolerance. -/
def neglectedGrowth (tolerance : Rat) (step : Step Rat m n) : Rat :=
  match step.event with
  | .pivot exchange =>
      if step.tableau.Neglects exchange.column.castSucc tolerance then exchange.growth else 0
  | .initial | .afterPivot _ | .unbounded _ _ _ | .optimal _ => 0

theorem shortfall_nonneg (tolerance : Rat) (step : Step Rat m n) :
    0 ≤ step.shortfall tolerance := by
  rw [shortfall]
  split
  · exact Exchange.shortfall_nonneg
  all_goals exact le_refl 0

theorem shortfall_le_mul {tolerance : Rat} (nonneg : 0 ≤ tolerance) {step : Step Rat m n}
    (growing : ∀ exchange, step.event = .pivot exchange → 0 ≤ exchange.growth) :
    step.shortfall tolerance ≤ tolerance * step.neglectedGrowth tolerance := by
  rw [shortfall, neglectedGrowth]
  split
  · rename_i exchange announced
    split_ifs with neglects
    · exact Exchange.shortfall_le_mul (growing exchange announced) nonneg
    · rw [Exchange.shortfall_eq_zero (growing exchange announced) neglects, mul_zero]
  all_goals exact le_of_eq (mul_zero tolerance).symm

end Step

/-- The sum of the shortfalls of the pivots that some steps announce. -/
def totalShortfall (tolerance : Rat) (steps : List (Step Rat m n)) : Rat :=
  (steps.map (Step.shortfall tolerance)).sum

/-- The growth in all pivots that leave out some row with a positive entry for the tolerance. -/
def totalNeglectedGrowth (tolerance : Rat) (steps : List (Step Rat m n)) : Rat :=
  (steps.map (Step.neglectedGrowth tolerance)).sum

section Total

variable {tolerance : Rat} {steps : List (Step Rat m n)}

theorem totalShortfall_nonneg (tolerance : Rat) (steps : List (Step Rat m n)) :
    0 ≤ totalShortfall tolerance steps := by
  apply List.sum_nonneg
  intro value listed
  obtain ⟨step, -, rfl⟩ := List.mem_map.mp listed
  exact step.shortfall_nonneg tolerance

theorem totalShortfall_append (tolerance : Rat) (first second : List (Step Rat m n)) :
    totalShortfall tolerance (first ++ second) =
      totalShortfall tolerance first + totalShortfall tolerance second := by
  rw [totalShortfall, List.map_append, List.sum_append]
  rfl

theorem totalShortfall_take_le (tolerance : Rat) (steps : List (Step Rat m n)) (count : Nat) :
    totalShortfall tolerance (steps.take count) ≤ totalShortfall tolerance steps := by
  calc
    totalShortfall tolerance (steps.take count) ≤
        totalShortfall tolerance (steps.take count) +
          totalShortfall tolerance (steps.drop count) :=
      le_add_of_nonneg_right (totalShortfall_nonneg tolerance _)
    _ = totalShortfall tolerance steps := by
      rw [← totalShortfall_append, List.take_append_drop]

theorem totalShortfall_take_succ {index : Nat} {step : Step Rat m n}
    (found : steps[index]? = some step) :
    totalShortfall tolerance (steps.take (index + 1)) =
      totalShortfall tolerance (steps.take index) + step.shortfall tolerance := by
  rw [List.take_add_one, found, totalShortfall_append]
  simp [totalShortfall]

theorem totalShortfall_le_mul (nonneg : 0 ≤ tolerance)
    (growing : ∀ step ∈ steps, ∀ exchange, step.event = .pivot exchange →
      0 ≤ exchange.growth) :
    totalShortfall tolerance steps ≤ tolerance * totalNeglectedGrowth tolerance steps := by
  rw [totalShortfall, totalNeglectedGrowth, ← List.sum_map_mul_left]
  apply List.sum_le_sum
  intro step recorded
  exact Step.shortfall_le_mul nonneg (growing step recorded)

theorem totalShortfall_eq_zero
    (lossless : ∀ step ∈ steps, step.shortfall tolerance = 0) :
    totalShortfall tolerance steps = 0 := by
  apply List.sum_eq_zero
  intro value listed
  obtain ⟨step, recorded, rfl⟩ := List.mem_map.mp listed
  exact lossless step recorded

end Total

end SimplexReplay
