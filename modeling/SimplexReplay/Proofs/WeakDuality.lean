import Mathlib
import SimplexReplay.Proofs.DualSolution

/-!
# Weak duality

Prices for the rows of a program that keep every constraint of its dual bound what the program can
reach, as long as the price of each row has the sign that the relation of the row asks for.  When
the rows are those of a canonical program, upper bounds for a maximum and lower bounds for a
minimum, no price may be negative.  The sign printed under the dual of a minimum is the other one,
and no bound follows from it.
-/

namespace SimplexReplay

instance (relation : Relation) (left right : Rat) : Decidable (relation.Holds left right) :=
  match relation with
  | .atMost => inferInstanceAs (Decidable (left ≤ right))
  | .equal => inferInstanceAs (Decidable (left = right))
  | .atLeast => inferInstanceAs (Decidable (right ≤ left))

instance (constraint : Constraint Rat) (values : List Rat) :
    Decidable (constraint.Holds values) :=
  inferInstanceAs (Decidable (constraint.relation.Holds _ _))

/-- The price of a row with this relation has the sign that lets it bound the objective. -/
def Relation.Prices (relation : Relation) (objective : Objective) (price : Rat) : Prop :=
  match relation with
  | atMost => objective.sign * price ≤ 0
  | equal => True
  | atLeast => 0 ≤ objective.sign * price

theorem Relation.Prices.mul_le {relation : Relation} {objective : Objective}
    {price left bound : Rat} (prices : relation.Prices objective price)
    (holds : relation.Holds left bound) :
    objective.sign * (bound * price) ≤ objective.sign * (left * price) := by
  cases relation with
  | atMost =>
      have products := mul_le_mul_of_nonpos_left holds prices
      linarith
  | equal =>
      have same : left = bound := holds
      rw [same]
  | atLeast =>
      have products := mul_le_mul_of_nonneg_left holds prices
      linarith

namespace Program

/-- Values keep every constraint of a program with its own relation. -/
structure Keeps (program : Program Rat) (values : List Rat) : Prop where
  length_eq : values.length = program.variableCount
  holds : ∀ constraint ∈ program.constraints, constraint.Holds values

/-- A maximum under upper bounds or a minimum under lower bounds. -/
def Canonical (program : Program Rat) : Prop :=
  ∀ constraint ∈ program.constraints,
    constraint.relation = dualRelation program.objective.opposite

/-- Prices have the sign that is printed under the dual of a program. -/
def PrintedSign (program : Program Rat) (prices : List Rat) : Prop :=
  ∃ relation : Relation, program.dualSign = relation.sign ++ " 0" ∧
    ∀ price ∈ prices, relation.Holds price 0

variable {program dual : Program Rat} {values prices : List Rat}

theorem dot_coefficientColumn (pricesLength : prices.length = program.constraintCount)
    (position : Fin program.variableCount) :
    dot (program.coefficientColumn position.val) prices =
      ∑ row : Fin program.constraintCount,
        program.coefficient row position * prices.getD row.val 0 := by
  have columnLength : (program.coefficientColumn position.val).length =
      program.constraintCount := by
    simp [coefficientColumn, constraintCount]
  rw [dot_eq_sum columnLength pricesLength]
  simp only [getD_coefficientColumn]

theorem costAt_transposed_eq_sum (pricesLength : prices.length = program.constraintCount) :
    program.transposed.costAt prices =
      ∑ row : Fin program.constraintCount,
        (program.constraintAt row).bound * prices.getD row.val 0 := by
  have boundsLength : (program.constraints.map (·.bound)).length = program.constraintCount := by
    simp [constraintCount]
  change dot (program.constraints.map (·.bound)) prices = _
  rw [dot_eq_sum boundsLength pricesLength]
  simp only [getD_bounds]

/-- Rows weighted by prices and columns weighted by values add up to the same sum. -/
theorem sum_dot_coefficients_mul (wellShaped : program.WellShaped)
    (valuesLength : values.length = program.variableCount)
    (pricesLength : prices.length = program.constraintCount) :
    ∑ row : Fin program.constraintCount,
        dot (program.constraintAt row).coefficients values * prices.getD row.val 0 =
      ∑ position : Fin program.variableCount,
        dot (program.coefficientColumn position.val) prices * values.getD position.val 0 := by
  simp only [dot_coefficients wellShaped valuesLength, dot_coefficientColumn pricesLength,
    Finset.sum_mul]
  rw [Finset.sum_comm]
  apply Finset.sum_congr rfl
  intro position _
  apply Finset.sum_congr rfl
  intro row _
  ring

theorem Keeps.le_cost (dualKeeps : program.transposed.Keeps prices)
    (position : Fin program.variableCount) :
    program.objective.sign * dot (program.coefficientColumn position.val) prices ≤
      program.objective.sign * program.costs.getD position.val 0 := by
  have inside : position.val < program.costs.length := position.isLt
  have paired : (program.costs[position.val], position.val) ∈ program.costs.zipIdx := by
    rw [List.mem_zipIdx_iff_getElem?]
    exact List.getElem?_eq_getElem inside
  rw [List.getD_eq_getElem _ _ inside, ← dualRelation_holds_iff]
  exact dualKeeps.holds _ (List.mem_map_of_mem paired)

theorem Keeps.length_prices (dualKeeps : program.transposed.Keeps prices) :
    prices.length = program.constraintCount := by
  rw [dualKeeps.length_eq]
  simp [transposed, variableCount, constraintCount]

/-- Prices that keep the dual of a program bound it when each has the sign that its row asks
for. -/
theorem prefers_of_prices (wellShaped : program.WellShaped) (keeps : program.Keeps values)
    (nonneg : ∀ value ∈ values, 0 ≤ value) (dualKeeps : program.transposed.Keeps prices)
    (priced : ∀ row : Fin program.constraintCount,
      (program.constraintAt row).relation.Prices program.objective (prices.getD row.val 0)) :
    program.objective.Prefers (program.transposed.costAt prices) (program.costAt values) := by
  have pricesLength := dualKeeps.length_prices
  rw [Objective.prefers_iff]
  calc
    program.objective.sign * program.transposed.costAt prices
        = ∑ row, program.objective.sign *
            ((program.constraintAt row).bound * prices.getD row.val 0) := by
          rw [costAt_transposed_eq_sum pricesLength, Finset.mul_sum]
    _ ≤ ∑ row, program.objective.sign *
          (dot (program.constraintAt row).coefficients values * prices.getD row.val 0) := by
        apply Finset.sum_le_sum
        intro row _
        exact (priced row).mul_le (keeps.holds _ (program.constraintAt_mem row))
    _ = ∑ position : Fin program.variableCount, program.objective.sign *
          dot (program.coefficientColumn position.val) prices * values.getD position.val 0 := by
        rw [← Finset.mul_sum, sum_dot_coefficients_mul wellShaped keeps.length_eq pricesLength,
          Finset.mul_sum]
        simp only [mul_assoc]
    _ ≤ ∑ position : Fin program.variableCount, program.objective.sign *
          program.costs.getD position.val 0 * values.getD position.val 0 := by
        apply Finset.sum_le_sum
        intro position _
        have inside : position.val < values.length := by
          rw [keeps.length_eq]
          exact position.isLt
        rw [List.getD_eq_getElem _ _ inside]
        exact mul_le_mul_of_nonneg_right (dualKeeps.le_cost position)
          (nonneg _ (List.getElem_mem inside))
    _ = program.objective.sign * program.costAt values := by
        rw [costAt_eq_sum keeps.length_eq, Finset.mul_sum]
        simp only [mul_assoc]

theorem eq_transposed_of_dual (made : program.dual = .ok dual) :
    program.WellShaped ∧ dual = program.transposed := by
  rw [← checkShape_eq_ok_iff]
  cases shape : program.checkShape with
  | error fault => simp [Program.dual, shape, bind, Except.bind] at made
  | ok _ =>
      simp only [Program.dual, shape, bind, Except.bind, pure, Except.pure,
        Except.ok.injEq] at made
      exact ⟨rfl, made.symm⟩

/-- Non-negative prices that keep the dual of a canonical program bound the program. -/
theorem prefers_of_canonical (made : program.dual = .ok dual) (canonical : program.Canonical)
    (keeps : program.Keeps values) (nonneg : ∀ value ∈ values, 0 ≤ value)
    (dualKeeps : dual.Keeps prices) (signed : ∀ price ∈ prices, 0 ≤ price) :
    program.objective.Prefers (dual.costAt prices) (program.costAt values) := by
  obtain ⟨wellShaped, rfl⟩ := eq_transposed_of_dual made
  apply prefers_of_prices wellShaped keeps nonneg dualKeeps
  intro row
  have inside : row.val < prices.length := by
    rw [dualKeeps.length_prices]
    exact row.isLt
  have priceNonneg := signed _ (List.getElem_mem inside)
  rw [canonical _ (program.constraintAt_mem row), List.getD_eq_getElem _ _ inside]
  cases direction : program.objective <;>
    simpa [dualRelation, Objective.opposite, Relation.Prices, Objective.sign, direction]
      using priceNonneg

def feeding : Program Rat where
  objective := .minimize
  costs := [1, 1]
  constraints := [⟨[1, 2], .atLeast, 3⟩]

/-- The price `1/2` bounds the feeding program by the cost `3/2`, which it reaches. -/
theorem prefers_feeding :
    feeding.dual = .ok feeding.transposed ∧ feeding.Canonical ∧ feeding.Keeps [0, 3 / 2] ∧
      (∀ value ∈ ([0, 3 / 2] : List Rat), 0 ≤ value) ∧ feeding.transposed.Keeps [1 / 2] ∧
      (∀ price ∈ ([1 / 2] : List Rat), 0 ≤ price) ∧
      feeding.transposed.costAt [1 / 2] = 3 / 2 ∧
      feeding.objective.Prefers (feeding.transposed.costAt [1 / 2])
        (feeding.costAt [0, 3 / 2]) := by
  have made : feeding.dual = .ok feeding.transposed := rfl
  have canonical : feeding.Canonical := by unfold Canonical; decide
  have keeps : feeding.Keeps [0, 3 / 2] := ⟨rfl, by decide +kernel⟩
  have nonneg : ∀ value ∈ ([0, 3 / 2] : List Rat), 0 ≤ value := by decide +kernel
  have dualKeeps : feeding.transposed.Keeps [1 / 2] := ⟨rfl, by decide +kernel⟩
  have signed : ∀ price ∈ ([1 / 2] : List Rat), 0 ≤ price := by decide +kernel
  exact ⟨made, canonical, keeps, nonneg, dualKeeps, signed, by decide +kernel,
    prefers_of_canonical made canonical keeps nonneg dualKeeps signed⟩

/-- A minimum whose only lower bound keeps its variable from exceeding `4`. -/
def ceiling : Program Rat where
  objective := .minimize
  costs := [1]
  constraints := [⟨[-1], .atLeast, -4⟩]

/-- Prices of the printed sign that keep the dual of a canonical minimum need not bound it: the
price `-1` of the ceiling comes to `4`, and its variable may be zero. -/
theorem not_prefers_of_printedSign :
    ¬∀ (program dual : Program Rat) (values prices : List Rat),
      program.dual = .ok dual → program.Canonical → program.Keeps values →
      (∀ value ∈ values, 0 ≤ value) → dual.Keeps prices → program.PrintedSign prices →
      program.objective.Prefers (dual.costAt prices) (program.costAt values) := by
  intro claimed
  have canonical : ceiling.Canonical := by unfold Canonical; decide
  have keeps : ceiling.Keeps [0] := ⟨rfl, by decide +kernel⟩
  have dualKeeps : ceiling.transposed.Keeps [-1] := ⟨rfl, by decide +kernel⟩
  have printed : ceiling.PrintedSign [-1] := ⟨.atMost, rfl, by decide +kernel⟩
  have bounded : ceiling.transposed.costAt [-1] ≤ ceiling.costAt [0] :=
    claimed ceiling _ _ _ rfl canonical keeps (by decide +kernel) dualKeeps printed
  have fails : ¬ceiling.transposed.costAt [-1] ≤ ceiling.costAt [0] := by decide +kernel
  exact fails bounded

end Program

end SimplexReplay
