import SimplexReplay.Proofs.BasisView
import SimplexReplay.Proofs.Run.BasisScan

/-!
# Reading the basis off a recorded tableau

Without a tolerance the columns that are basic in a row are its unit columns.  A recorded tableau
has one for every row, so the scan gives every row a column, and the columns that it gives show the
program as well as the tracked ones.  The two need not be the same: a decision variable can be a
copy of a slack, and the scan prefers the slack.
-/

namespace SimplexReplay

variable {m n : Nat}

theorem magnitude_pos_iff {value : Rat} : 0 < Scalar.magnitude value ↔ value ≠ 0 := by
  change 0 < (if value < 0 then -value else value) ↔ value ≠ 0
  by_cases negative : value < 0
  · rw [if_pos negative, neg_pos]
    exact ⟨fun _ => ne_of_lt negative, fun _ => negative⟩
  · rw [if_neg negative]
    exact ⟨fun positive => ne_of_gt positive,
      fun nonzero => lt_of_le_of_ne (not_lt.mp negative) nonzero.symm⟩

theorem magnitude_le_zero_iff {value : Rat} : Scalar.magnitude value ≤ 0 ↔ value = 0 := by
  rw [← not_iff_not]
  exact not_le.trans magnitude_pos_iff

namespace Tableau

theorem basicIn_zero_iff {tableau : Tableau Rat m n} {row : Fin m} {column : Fin (n + 1)} :
    tableau.BasicIn 0 row column ↔ tableau.IsUnitColumn row.succ column := by
  constructor
  · intro basic other
    refine Fin.cases ?_ (fun line => ?_) other
    · rw [if_neg (Fin.succ_ne_zero row).symm]
      exact not_not.mp (mt magnitude_pos_iff.mpr basic.cost)
    · by_cases same : line = row
      · rw [same, if_pos rfl]
        exact sub_eq_zero.mp (magnitude_le_zero_iff.mp ((basic.nearOne_iff row).mpr rfl))
      · rw [if_neg fun equal => same (Fin.succ_injective m equal)]
        exact not_not.mp (mt magnitude_pos_iff.mpr (basic.undisturbed line same))
  · intro unit
    have bodyEq : ∀ line, tableau.body line column = if line = row then 1 else 0 := by
      intro line
      rw [body, unit line.succ]
      simp only [Fin.succ_inj]
    refine ⟨?_, fun other => ?_, fun other different => ?_⟩
    · have costEq : tableau.objectiveEntry column = 0 := by
        rw [objectiveEntry, unit 0, if_neg (Fin.succ_ne_zero row).symm]
      exact fun costly => magnitude_pos_iff.mp costly costEq
    · refine magnitude_le_zero_iff.trans ?_
      rw [bodyEq]
      by_cases same : other = row <;> simp [same]
    · have clear : tableau.body other column = 0 := by rw [bodyEq, if_neg different]
      exact fun disturbs => magnitude_pos_iff.mp disturbs clear

/-- The scan finds a column for every row of a canonical tableau. -/
theorem Canonical.exists_readBasis {tableau : Tableau Rat m n} {columns : Fin m → Fin n}
    (canonical : tableau.Canonical columns) :
    ∃ read : Fin m → Fin n, tableau.Canonical read ∧
      tableau.readBasis 0 = .ok (Vector.ofFn fun row => ((read row).val : Int)) := by
  have fits : m ≤ n := by
    simpa using Fintype.card_le_of_injective columns canonical.injective
  have found : ∀ row, ∃ first, tableau.firstBasic? fits 0 row = some first ∧
      tableau.BasicIn 0 row first.castSucc := fun row =>
    exists_firstBasic?_eq fits (basicIn_zero_iff.mpr (canonical row))
  choose read firstEq basic using found
  refine ⟨read, fun row => basicIn_zero_iff.mp (basic row), ?_⟩
  rw [tableau.readBasis_eq fits]
  simp only [firstEq, Option.elim_some]

end Tableau

/-- The basis that is read off shows the same equations as the one that is tracked. -/
theorem Point.SeenFrom.exists_readBasis {initial : Tableau Rat m n} {point : Point Rat m n}
    {columns : Fin m → Fin n} (seen : point.SeenFrom initial columns) :
    ∃ (basis : Vector Int m) (read : Fin m → Fin n),
      point.tableau.readBasis 0 = .ok basis ∧
        Point.SeenFrom initial ⟨point.tableau, basis.toList⟩ read := by
  obtain ⟨read, canonical, readEq⟩ := seen.canonical.exists_readBasis
  exact ⟨_, read, readEq, Vector.toList_ofFn, canonical, seen.equivalent⟩

namespace Program

/-- What is read off the tableau of a point without its basis: a full basis, and a solution of the
same cost as the tracked one that meets every bound with the slacks that go with it. -/
structure ReadsOff (program : Program Rat)
    (point : Point Rat program.constraintCount program.columnCount)
    (basis : Vector Int program.constraintCount) (tracked read : Solution Rat) : Prop where
  readBasis_eq : point.tableau.readBasis 0 = .ok basis
  basis_range : ∀ column ∈ basis.toList, 0 ≤ column ∧ column < program.columnCount
  nodup_basis : basis.toList.Nodup
  tracked_eq :
    point.tableau.solution program.variableCount program.objective point.basis = .ok tracked
  read_eq :
    point.tableau.readSolution program.variableCount program.objective 0 = .ok read
  cost_eq : read.cost = tracked.cost
  costAt_eq : program.costAt read.values = read.cost
  meets_bound : ∀ row,
    dot (program.constraintAt row).coefficients read.values +
        Point.valueOf ⟨point.tableau, basis.toList⟩ (program.slackColumn row) =
      (program.constraintAt row).bound
  admits : point.tableau.Feasible →
    program.Admits tracked.values ∧ program.Admits read.values

theorem exists_readsOff_of_seenFrom {program : Program Rat} (wellShaped : program.WellShaped)
    {point : Point Rat program.constraintCount program.columnCount}
    {columns : Fin program.constraintCount → Fin program.columnCount}
    (seen : point.SeenFrom program.initialTableau columns) :
    ∃ basis tracked read, program.ReadsOff point basis tracked read := by
  obtain ⟨basis, readColumns, readEq, readSeen⟩ := seen.exists_readBasis
  have shows := seenAt_of_seenFrom readSeen wellShaped
  have readSolutionEq : point.tableau.readSolution program.variableCount program.objective 0 =
      point.tableau.solution program.variableCount program.objective basis.toList := by
    rw [Tableau.readSolution, readEq]
    rfl
  refine ⟨basis, _, _, readEq, shows.basis_range, shows.nodup_basis, solution_shown seen,
    readSolutionEq.trans (solution_shown readSeen), rfl, costAt_shown readSeen, ?_, ?_⟩
  · intro row
    rw [Point.valueOf_eq_basicSolution readSeen.tracks readSeen.canonical.injective]
    exact dot_add_slack readSeen wellShaped row
  · intro feasible
    exact ⟨admits_shown seen wellShaped feasible, admits_shown readSeen wellShaped feasible⟩

/-- For every recorded step of an exact solve, reading the basis off is as good as tracking it. -/
theorem exists_readsOff_of_solve {program : Program Rat} (wellShaped : program.WellShaped)
    {tolerance : Rat} (nonneg : 0 ≤ tolerance) (rule : PivotRule) (cap : Nat) :
    ∃ course, program.solve tolerance rule cap = .ok course ∧
      ∀ step ∈ course.steps, ∃ basis tracked read,
        program.ReadsOff step.point basis tracked read := by
  have solved := solve_eq_ok_iff.mpr ⟨wellShaped, (rfl : program.course tolerance rule cap = _)⟩
  refine ⟨_, solved, ?_⟩
  intro step recorded
  obtain ⟨columns, seen⟩ := exists_seenFrom_of_mem_steps nonneg solved recorded
  exact exists_readsOff_of_seenFrom wellShaped seen

/-- The first variable costs nothing and stands in the first constraint only, like its slack. -/
def shadowed : Program Rat where
  objective := .maximize
  costs := [0, 1, 2]
  constraints := [⟨[1, 2, 0], .atMost, 1⟩, ⟨[0, 1, 1], .atMost, 2⟩]

/-- The shadowed program ends with its first variable in the basis, where the slack is read off:
both solutions cost four and keep the constraints. -/
theorem readsOff_shadowed :
    shadowed.WellShaped ∧ (0 : Rat) ≤ 0 ∧
      ∃ course, shadowed.solve 0 .bland 12 = .ok course ∧
        ∃ step ∈ course.steps, ∃ basis,
          shadowed.ReadsOff step.point basis ⟨[1, 0, 2], 4⟩ ⟨[0, 0, 2], 4⟩ := by
  have wellShaped : shadowed.WellShaped := by decide
  obtain ⟨course, solved, readsOff⟩ :=
    exists_readsOff_of_solve wellShaped (le_refl 0) .bland 12
  refine ⟨wellShaped, le_refl 0, course, solved, ?_⟩
  obtain ⟨-, rfl⟩ := solve_eq_ok_iff.mp solved
  have shown : ((shadowed.course 0 .bland 12).steps.getLast?.map fun step =>
      ((step.point.tableau.solution 3 .maximize step.point.basis).toOption,
        (step.point.tableau.readSolution 3 .maximize 0).toOption)) =
      some (some ⟨[1, 0, 2], 4⟩, some ⟨[0, 0, 2], 4⟩) := by decide +kernel
  obtain ⟨step, last, solutionsEq⟩ := Option.map_eq_some_iff.mp shown
  have recorded := List.mem_of_getLast? last
  obtain ⟨basis, tracked, read, reads⟩ := readsOff step recorded
  have trackedEq := congrArg Except.toOption reads.tracked_eq
  have readEq := congrArg Except.toOption reads.read_eq
  obtain ⟨trackedIs, readIs⟩ := Prod.mk.inj solutionsEq
  obtain rfl := Option.some.inj (trackedIs.symm.trans trackedEq)
  obtain rfl := Option.some.inj (readIs.symm.trans readEq)
  exact ⟨step, recorded, basis, reads⟩

end Program

end SimplexReplay
