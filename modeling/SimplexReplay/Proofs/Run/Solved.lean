import Mathlib.Data.List.FinRange
import Mathlib.Data.List.OfFn
import SimplexReplay.Proofs.Run.Trail
import SimplexReplay.Tableau.Basis

/-!
# Solved programs

When the basis lists a column for every row, the values of the decision variables can always be
read off a tableau.  If no column is listed twice, each listed decision variable has the right-hand
side of its row as value, and every other one is zero.

A program is solved exactly when it is well shaped.  The course of its solve then follows a trail
that starts at the initial tableau with the slacks as basis, and an optimal course records the
solution that its last point shows.
-/

namespace SimplexReplay

namespace Tableau

variable {α : Type} {m n : Nat}

/-- The values after the right-hand side of a row went to its basic variable, if that is a
decision variable. -/
def assign (tableau : Tableau α m n) (variableCount : Nat) (columns : Fin m → Fin n)
    (values : List α) (row : Fin m) : List α :=
  if (columns row).val < variableCount then values.set (columns row).val (tableau.rhs row)
  else values

theorem settle_eq_assign (tableau : Tableau α m n) (variableCount : Nat)
    (columns : Fin m → Fin n) (values : List α) (row : Fin m) :
    tableau.settle variableCount values ((columns row).val, row.val) =
      .ok (tableau.assign variableCount columns values row) := by
  by_cases decision : (columns row).val < variableCount <;> simp [settle, assign, decision]

theorem zipIdx_ofFn (entries : Fin m → Int) :
    (List.ofFn entries).zipIdx = (List.finRange m).map fun row => (entries row, row.val) := by
  apply List.ext_getElem (by simp)
  intro position first second
  simp

theorem decisionValues_ofFn [Scalar α] (tableau : Tableau α m n) (variableCount : Nat)
    (columns : Fin m → Fin n) :
    tableau.decisionValues variableCount (List.ofFn fun row => ((columns row).val : Int)) =
      .ok ((List.finRange m).foldl (tableau.assign variableCount columns)
        (List.replicate variableCount 0)) := by
  rw [decisionValues, zipIdx_ofFn, List.foldlM_map]
  simp only [settle_eq_assign]
  exact List.foldlM_pure

theorem length_foldl_assign (tableau : Tableau α m n) (variableCount : Nat)
    (columns : Fin m → Fin n) (rows : List (Fin m)) (values : List α) :
    (rows.foldl (tableau.assign variableCount columns) values).length = values.length := by
  induction rows generalizing values with
  | nil => rfl
  | cons row rest ih =>
      rw [List.foldl_cons, ih, assign]
      split <;> simp

theorem foldl_assign_getElem?_of_ne (tableau : Tableau α m n) (variableCount : Nat)
    (columns : Fin m → Fin n) {rows : List (Fin m)} {position : Nat}
    (others : ∀ row ∈ rows, (columns row).val ≠ position) (values : List α) :
    (rows.foldl (tableau.assign variableCount columns) values)[position]? =
      values[position]? := by
  induction rows generalizing values with
  | nil => rfl
  | cons row rest ih =>
      have other : (columns row).val ≠ position := others row (by simp)
      rw [List.foldl_cons, ih fun next nextMem => others next (List.mem_cons_of_mem row nextMem)]
      by_cases decision : (columns row).val < variableCount <;> simp [assign, decision, other]

/-- A row gives its right-hand side to its basic column, which no later row shares. -/
theorem foldl_assign_getElem?_basic (tableau : Tableau α m n) {variableCount : Nat}
    {columns : Fin m → Fin n} (distinct : Function.Injective columns) {rows : List (Fin m)}
    (nodup : rows.Nodup) {row : Fin m} (rowMem : row ∈ rows)
    (decision : (columns row).val < variableCount) {values : List α}
    (lengthEq : values.length = variableCount) :
    (rows.foldl (tableau.assign variableCount columns) values)[(columns row).val]? =
      some (tableau.rhs row) := by
  obtain ⟨before, after, rfl⟩ := List.append_of_mem rowMem
  have notAfter : row ∉ after := (List.nodup_cons.mp (List.nodup_append.mp nodup).2.1).1
  have others : ∀ next ∈ after, (columns next).val ≠ (columns row).val := by
    intro next nextMem same
    exact notAfter (distinct (Fin.ext same) ▸ nextMem)
  rw [List.foldl_append, List.foldl_cons,
    tableau.foldl_assign_getElem?_of_ne variableCount columns others, assign, if_pos decision]
  have inside : (columns row).val <
      (before.foldl (tableau.assign variableCount columns) values).length := by
    rw [length_foldl_assign, lengthEq]
    exact decision
  simp [inside]

end Tableau

variable {α : Type}

/-- A pivot at positions that are not counted from the end. -/
theorem Tableau.pivotAt_val [Scalar α] {m n : Nat} (tableau : Tableau α m n) (row : Fin (m + 1))
    (column : Fin (n + 1)) :
    tableau.pivotAt row.val column.val =
      if tableau.entry row column == 0 then
        .error (.zeroPivot (toString (row.val : Int)) (toString (column.val : Int)))
      else .ok (tableau.pivot row column) := by
  have notNegative : ¬ (row.val : Int) < 0 := by omega
  simp only [pivotAt, signedPosition?_natCast row.isLt, signedPosition?_natCast column.isLt,
    if_neg notNegative]

theorem Point.Reaches.exists_tracks [Scalar α] {m n : Nat} {setting : Setting α}
    {point next : Point α m n} (reaches : point.Reaches setting next)
    {columns : Fin m → Fin n} (tracks : point.Tracks columns) :
    ∃ columns, next.Tracks columns := by
  induction reaches with
  | refl => exact ⟨columns, tracks⟩
  | tail before leads ih =>
      obtain ⟨columns, tracks⟩ := ih
      obtain ⟨row, column, chosen, rfl⟩ := leads
      exact ⟨_, tracks.afterPivot row column⟩

theorem Course.solution?_of_getLast? {m n : Nat} {course : Course α m n} {point : Point α m n}
    {iteration : Nat} {solution : Solution α}
    (last : course.steps.getLast? = some (point.step iteration (.optimal solution))) :
    course.solution? = some solution := by
  simp [Course.solution?, last, Point.step]

namespace Program

theorem checkLengths_eq_ok_iff (expected position : Nat) (constraints : List (Constraint α)) :
    checkLengths expected position constraints = .ok () ↔
      ∀ constraint ∈ constraints, constraint.coefficients.length = expected := by
  induction constraints generalizing position with
  | nil => simp [checkLengths]
  | cons constraint rest ih =>
      by_cases lengthEq : constraint.coefficients.length = expected
      · simp [checkLengths, lengthEq, ih]
      · simp [checkLengths, lengthEq]

theorem checkShape_eq_ok_iff (program : Program α) :
    program.checkShape = .ok () ↔ program.WellShaped := by
  by_cases noVariables : program.variableCount = 0
  · simp [checkShape, WellShaped, noVariables]
  · by_cases noConstraints : program.constraintCount = 0
    · simp [checkShape, WellShaped, noVariables, noConstraints]
    · simp [checkShape, WellShaped, noVariables, noConstraints, checkLengths_eq_ok_iff,
        Nat.pos_of_ne_zero]

def decisionColumn (program : Program α) (position : Fin program.variableCount) :
    Fin program.columnCount :=
  Fin.castAdd program.constraintCount position

def slackColumn (program : Program α) (row : Fin program.constraintCount) :
    Fin program.columnCount :=
  Fin.natAdd program.variableCount row

@[simp]
theorem val_decisionColumn (program : Program α) (position : Fin program.variableCount) :
    (program.decisionColumn position).val = position.val :=
  rfl

@[simp]
theorem val_slackColumn (program : Program α) (row : Fin program.constraintCount) :
    (program.slackColumn row).val = program.variableCount + row.val :=
  rfl

theorem length_columnNames (program : Program α) :
    program.columnNames.length = program.columnCount := by
  simp [columnNames, numberedNames, columnCount]

theorem nameText_eq (program : Program α) (tolerance : α) (rule : PivotRule) {position : Nat}
    (inside : position < program.columnNames.length) :
    (program.setting tolerance rule).nameText position = .ok program.columnNames[position] := by
  have listed : position < (program.columnNames.map Datum.text).length := by
    rw [List.length_map]
    exact inside
  simp [Setting.nameText, setting, Names.ofTexts, Names.nameAt, signedGet?_natCast listed, bind,
    Except.bind]

theorem setting_named (program : Program α) (tolerance : α) (rule : PivotRule)
    (column : Fin program.columnCount) :
    ∃ text, (program.setting tolerance rule).nameText column.val = .ok text := by
  have inside : column.val < program.columnNames.length := by
    rw [length_columnNames]
    exact column.isLt
  exact ⟨_, program.nameText_eq tolerance rule inside⟩

variable [Scalar α]

theorem solve_eq_ok_iff {program : Program α} {tolerance : α} {rule : PivotRule} {cap : Nat}
    {course : Course α program.constraintCount program.columnCount} :
    program.solve tolerance rule cap = .ok course ↔
      program.WellShaped ∧ program.course tolerance rule cap = course := by
  rw [← checkShape_eq_ok_iff]
  cases shape : program.checkShape with
  | error fault => simp [solve, shape, bind, Except.bind]
  | ok _ => simp [solve, shape, bind, Except.bind, pure, Except.pure]

theorem tableau_eq_ok {program : Program α} (wellShaped : program.WellShaped) :
    program.tableau = .ok program.initialTableau := by
  rw [tableau, (checkShape_eq_ok_iff program).mpr wellShaped]
  rfl

theorem start_tracks (program : Program α) : program.start.Tracks program.slackColumn := by
  apply List.ext_getElem (by simp [start, slackBasis])
  intro position first second
  simp [start, slackBasis]

theorem setting_sound (program : Program α) {tolerance : α}
    (nonzero : ∀ value, tolerance < value → (value == 0) = false) (rule : PivotRule) :
    (program.setting tolerance rule).Sound program.columnCount :=
  ⟨program.setting_named tolerance rule, nonzero⟩

theorem solutionOf_ok (program : Program α)
    {course : Course α program.constraintCount program.columnCount}
    {columns : Fin program.constraintCount → Fin program.columnCount}
    (tracks : course.last.Tracks columns) :
    program.solutionOf course = .ok
      ⟨(List.finRange program.constraintCount).foldl
          (course.last.tableau.assign program.variableCount columns)
          (List.replicate program.variableCount 0),
        course.last.tableau.costValue program.objective⟩ := by
  rw [solutionOf, Tableau.solution, tracks, Tableau.decisionValues_ofFn]
  rfl

theorem recordSolution_of_optimal {program : Program α}
    {course : Course α program.constraintCount program.columnCount} {solution : Solution α}
    (optimal : course.ending = .reached .optimal)
    (solved : program.solutionOf course = .ok solution) :
    program.recordSolution course =
      { course with
        steps := course.steps ++ [course.last.step course.pivots (.optimal solution)] } := by
  rw [recordSolution, optimal]
  simp only [solved]

theorem recordSolution_of_not_optimal {program : Program α}
    {course : Course α program.constraintCount program.columnCount}
    (notOptimal : course.ending ≠ .reached .optimal) :
    program.recordSolution course = course := by
  rw [recordSolution]
  split
  · contradiction
  all_goals rfl

/-- What the course of a solve has in common with the course of its run. -/
structure Wraps (program : Program α)
    (whole inner : Course α program.constraintCount program.columnCount) : Prop where
  last_eq : whole.last = inner.last
  ending_eq : whole.ending = inner.ending
  visited_eq : whole.visited = program.start :: inner.visited
  solution_eq : inner.ending = .reached .optimal →
    ∃ solution, program.solutionOf inner = .ok solution ∧ whole.solution? = some solution

/-- The course of a solve follows a trail from the start of the program, and records the solution
when the trail is optimal. -/
theorem exists_trail (program : Program α) (wellShaped : program.WellShaped) {tolerance : α}
    (nonzero : ∀ value, tolerance < value → (value == 0) = false) (rule : PivotRule)
    (cap : Nat) :
    ∃ inner, Trail (program.setting tolerance rule) cap 0 program.start inner ∧
      program.Wraps (program.course tolerance rule cap) inner := by
  have sound := program.setting_sound nonzero rule
  have someRow : program.constraintCount ≠ 0 := Nat.ne_of_gt wellShaped.2.1
  have trail := run_trail sound someRow cap 0 program.start_tracks
  refine ⟨_, trail, ?_⟩
  by_cases optimal :
      (run (program.setting tolerance rule) cap 0 program.start).ending = .reached .optimal
  · obtain ⟨columns, tracks⟩ := trail.reaches_last.exists_tracks program.start_tracks
    have solved := program.solutionOf_ok tracks
    have recorded := recordSolution_of_optimal optimal solved
    refine ⟨by simp [course, recorded], by simp [course, recorded], ?_, ?_⟩
    · simp [course, recorded, Course.visited, arrivals, Event.isArrival, Point.step, Step.point]
    · intro _
      refine ⟨_, solved, ?_⟩
      apply Course.solution?_of_getLast?
      simp only [course, recorded, ← List.cons_append]
      exact List.getLast?_concat
  · have recorded := recordSolution_of_not_optimal optimal
    refine ⟨by simp [course, recorded], by simp [course, recorded], ?_, ?_⟩
    · simp [course, recorded, Course.visited, arrivals, Event.isArrival, Point.step, Step.point]
    · intro isOptimal
      exact absurd isOptimal optimal

end Program

end SimplexReplay
