import SimplexReplay.Program.Dual
import SimplexReplay.Proofs.AboveZero
import SimplexReplay.Proofs.Run.Solved

/-!
# The dual of the dual

Taking the dual twice gives back objective, costs, coefficients and bounds of a well-shaped program
in their order.  The relations are not kept: each constraint comes back with the relation that
belongs to the objective, an upper bound for a maximum and a lower bound for a minimum.  So a
program is its own double dual exactly when these are the relations that it had.
-/

namespace SimplexReplay

open Float.Model

theorem Objective.opposite_opposite (objective : Objective) :
    objective.opposite.opposite = objective := by
  cases objective <;> rfl

namespace Program

variable {α : Type}

/-- The relation of every constraint of a canonical program with this objective. -/
def canonicalRelation : Objective → Relation
  | .maximize => .atMost
  | .minimize => .atLeast

/-- The program with one relation for all constraints. -/
def withRelation (program : Program α) (relation : Relation) : Program α :=
  { program with
    constraints := program.constraints.map fun constraint => { constraint with relation } }

theorem dualRelation_opposite (objective : Objective) :
    dualRelation objective.opposite = canonicalRelation objective := by
  cases objective <;> rfl

theorem withRelation_eq_self_iff {program : Program α} {relation : Relation} :
    program.withRelation relation = program ↔
      ∀ constraint ∈ program.constraints, constraint.relation = relation := by
  constructor
  · intro same constraint constraintMem
    have keptMem : constraint ∈ (program.withRelation relation).constraints := by
      rw [same]
      exact constraintMem
    obtain ⟨other, -, rfl⟩ := List.mem_map.mp keptMem
    rfl
  · intro relations
    have constraintsEq : program.constraints.map
        (fun constraint => { constraint with relation }) = program.constraints.map id := by
      apply List.map_congr_left
      intro constraint constraintMem
      rw [← relations constraint constraintMem, id]
    rw [withRelation, constraintsEq, List.map_id]

section Transposed

variable [Zero α] {program : Program α}

theorem length_coefficientColumn (program : Program α) (position : Nat) :
    (program.coefficientColumn position).length = program.constraintCount := by
  simp [coefficientColumn, constraintCount]

theorem variableCount_transposed (program : Program α) :
    program.transposed.variableCount = program.constraintCount := by
  simp [transposed, variableCount, constraintCount]

theorem constraintCount_transposed (program : Program α) :
    program.transposed.constraintCount = program.variableCount := by
  simp [transposed, variableCount, constraintCount]

/-- The dual has a variable for each constraint and a constraint for each variable, so it is well
shaped when the program is. -/
theorem WellShaped.transposed (wellShaped : program.WellShaped) :
    program.transposed.WellShaped := by
  obtain ⟨someVariable, someConstraint, -⟩ := wellShaped
  refine ⟨?_, ?_, ?_⟩
  · rw [variableCount_transposed]
    exact someConstraint
  · rw [constraintCount_transposed]
    exact someVariable
  · intro constraint constraintMem
    obtain ⟨⟨cost, position⟩, -, rfl⟩ := List.mem_map.mp constraintMem
    rw [variableCount_transposed]
    exact program.length_coefficientColumn position

theorem dual_eq_ok (wellShaped : program.WellShaped) :
    program.dual = .ok program.transposed := by
  rw [dual, (checkShape_eq_ok_iff program).mpr wellShaped]
  rfl

theorem bounds_transposed (program : Program α) :
    program.transposed.constraints.map (·.bound) = program.costs := by
  apply List.ext_getElem (by simp [Program.transposed])
  intro position first second
  simp [Program.transposed]

/-- The column of the dual at the position of a constraint holds the coefficients of that
constraint. -/
theorem coefficientColumn_transposed (wellShaped : program.WellShaped) {row : Nat}
    (inside : row < program.constraints.length) :
    program.transposed.coefficientColumn row = program.constraints[row].coefficients := by
  have lengthEq := wellShaped.2.2 _ (List.getElem_mem inside)
  apply List.ext_getElem
  · rw [length_coefficientColumn, constraintCount_transposed, lengthEq]
  · intro position first second
    simp [coefficientColumn, Program.transposed, inside, second]

/-- Transposing twice only forgets the relations. -/
theorem transposed_transposed (wellShaped : program.WellShaped) :
    program.transposed.transposed =
      program.withRelation (canonicalRelation program.objective) := by
  have constraintsEq : program.transposed.transposed.constraints =
      (program.withRelation (canonicalRelation program.objective)).constraints := by
    apply List.ext_getElem
    · exact (constraintCount_transposed program.transposed).trans
        ((variableCount_transposed program).trans (by simp [withRelation, constraintCount]))
    · intro row first second
      have inside : row < program.constraints.length := by
        simpa [withRelation] using second
      have columnEq := coefficientColumn_transposed wellShaped inside
      simp only [withRelation, List.getElem_map, ← columnEq, ← dualRelation_opposite]
      simp [Program.transposed]
  calc
    program.transposed.transposed
      = ⟨program.objective.opposite.opposite, program.transposed.constraints.map (·.bound),
          program.transposed.transposed.constraints⟩ := rfl
    _ = program.withRelation (canonicalRelation program.objective) := by
      rw [Objective.opposite_opposite, bounds_transposed, constraintsEq]
      rfl

end Transposed

end Program

theorem Double.beq_self_iff {value : Float} : (value == value) = true ↔ value.isNaN = false := by
  change (value.toModel.unpack.beq value.toModel.unpack) = true ↔
    value.toModel.unpack.isNaN = false
  cases value.toModel.unpack with
  | notANumber | zero sign => simp [UnpackedFloat.beq, UnpackedFloat.compare, UnpackedFloat.isNaN]
  | infinity sign =>
      cases sign <;> simp [UnpackedFloat.beq, UnpackedFloat.compare, UnpackedFloat.isNaN, compare]
  | finite sign mantissa exponent positive =>
      cases sign <;> simp [UnpackedFloat.beq, UnpackedFloat.compare, UnpackedFloat.isNaN]

theorem beq_self_of_members {α : Type} [BEq α] {members : List α}
    (equal : ∀ member ∈ members, (member == member) = true) : (members == members) = true := by
  induction members with
  | nil => rfl
  | cons member rest ih =>
      rw [List.cons_beq_cons, Bool.and_eq_true]
      exact ⟨equal member (by simp), ih fun other otherMem => equal other (by simp [otherMem])⟩

theorem Constraint.beq_iff {first second : Constraint Float} :
    (first == second) = true ↔ (first.coefficients == second.coefficients) = true ∧
      first.relation = second.relation ∧ (first.bound == second.bound) = true := by
  change (first.coefficients == second.coefficients && (first.relation == second.relation &&
    first.bound == second.bound)) = true ↔ _
  simp

namespace Program

/-- No number of the program is undefined. -/
structure Defined (program : Program Float) : Prop where
  cost : ∀ cost ∈ program.costs, cost.isNaN = false
  coefficient : ∀ constraint ∈ program.constraints,
    ∀ coefficient ∈ constraint.coefficients, coefficient.isNaN = false
  bound : ∀ constraint ∈ program.constraints, constraint.bound.isNaN = false

variable {program : Program Float}

theorem beq_iff {first second : Program Float} :
    (first == second) = true ↔ first.objective = second.objective ∧
      (first.costs == second.costs) = true ∧
        (first.constraints == second.constraints) = true := by
  change (first.objective == second.objective && (first.costs == second.costs &&
    first.constraints == second.constraints)) = true ↔ _
  simp

/-- A program without undefined numbers compares equal to itself. -/
theorem Defined.beq_self (defined : program.Defined) : (program == program) = true := by
  refine beq_iff.mpr ⟨rfl, ?_, ?_⟩
  · exact beq_self_of_members fun cost costMem =>
      Double.beq_self_iff.mpr (defined.cost cost costMem)
  · apply beq_self_of_members
    intro constraint constraintMem
    refine Constraint.beq_iff.mpr ⟨?_, rfl, ?_⟩
    · apply beq_self_of_members
      intro coefficient coefficientMem
      exact Double.beq_self_iff.mpr
        (defined.coefficient constraint constraintMem coefficient coefficientMem)
    · exact Double.beq_self_iff.mpr (defined.bound constraint constraintMem)

theorem Defined.withRelation (defined : program.Defined) (relation : Relation) :
    (program.withRelation relation).Defined where
  cost := defined.cost
  coefficient := by
    intro constraint constraintMem
    obtain ⟨other, otherMem, rfl⟩ := List.mem_map.mp constraintMem
    exact defined.coefficient other otherMem
  bound := by
    intro constraint constraintMem
    obtain ⟨other, otherMem, rfl⟩ := List.mem_map.mp constraintMem
    exact defined.bound other otherMem

theorem relation_eq_of_beq {constraints : List (Constraint Float)} {relation : Relation}
    (same : (constraints.map (fun constraint => { constraint with relation }) ==
      constraints) = true) :
    ∀ constraint ∈ constraints, constraint.relation = relation := by
  induction constraints with
  | nil => simp
  | cons first rest ih =>
      rw [List.map_cons, List.cons_beq_cons, Bool.and_eq_true] at same
      intro constraint constraintMem
      rcases List.mem_cons.mp constraintMem with rfl | inRest
      · exact (Constraint.beq_iff.mp same.1).2.1.symm
      · exact ih same.2 constraint inRest

theorem withRelation_beq_self_iff (defined : program.Defined) {relation : Relation} :
    (program.withRelation relation == program) = true ↔
      ∀ constraint ∈ program.constraints, constraint.relation = relation := by
  constructor
  · intro same
    exact relation_eq_of_beq (beq_iff.mp same).2.2
  · intro relations
    rw [withRelation_eq_self_iff.mpr relations]
    exact defined.beq_self

/-- The dual of a program that passes the shape check passes it too, and its own dual is the
program under the relation of its objective.  Where no number is undefined, this compares equal to
the program exactly when the program had that relation in every constraint. -/
theorem exists_doubleDual (checked : program.checkShape = .ok ()) (defined : program.Defined) :
    ∃ dual twice, program.dual = .ok dual ∧ dual.checkShape = .ok () ∧ dual.dual = .ok twice ∧
      twice = program.withRelation (canonicalRelation program.objective) ∧
      (twice == program.withRelation (canonicalRelation program.objective)) = true ∧
      ((twice == program) = true ↔
        ∀ constraint ∈ program.constraints,
          constraint.relation = canonicalRelation program.objective) := by
  have wellShaped := (checkShape_eq_ok_iff program).mp checked
  have dualShaped := wellShaped.transposed
  have twiceEq := transposed_transposed wellShaped
  refine ⟨_, _, dual_eq_ok wellShaped, (checkShape_eq_ok_iff _).mpr dualShaped,
    dual_eq_ok dualShaped, twiceEq, ?_, ?_⟩
  · rw [twiceEq]
    exact (defined.withRelation _).beq_self
  · rw [twiceEq]
    exact withRelation_beq_self_iff defined

/-- A minimum over three variables under two constraints, one of which is an upper bound. -/
def patchwork : Program Float where
  objective := .minimize
  costs := [1.5, -0.0, 1.0 / 0.0]
  constraints := [⟨[1, 0, -2], .atLeast, 4⟩, ⟨[0.1, -0.0, 3], .atMost, -1.0 / 0.0⟩]

/-- The double dual of the patchwork program has lower bounds only, so it is another program. -/
theorem doubleDual_patchwork :
    patchwork.checkShape = .ok () ∧ patchwork.Defined ∧
      ∃ dual, patchwork.dual = .ok dual ∧ dual.constraintCount = 3 ∧
        dual.dual = .ok (patchwork.withRelation .atLeast) ∧
        (patchwork.withRelation .atLeast == patchwork) = false := by
  have checked : patchwork.checkShape = .ok () := rfl
  have defined : patchwork.Defined :=
    ⟨by decide +kernel, by decide +kernel, by decide +kernel⟩
  obtain ⟨dual, twice, made, -, madeTwice, rfl, -, same⟩ := exists_doubleDual checked defined
  refine ⟨checked, defined, dual, made, ?_, madeTwice, ?_⟩
  · obtain rfl : patchwork.transposed = dual := Except.ok.inj made
    rfl
  · apply Bool.eq_false_iff.mpr
    intro equal
    have relations := same.mp equal
    exact absurd (relations ⟨[0.1, -0.0, 3], .atMost, -1.0 / 0.0⟩ (by simp [patchwork])) nofun

end Program

end SimplexReplay
