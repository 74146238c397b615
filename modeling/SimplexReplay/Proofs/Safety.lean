import SimplexReplay.Program.Loose
import SimplexReplay.Proofs.AboveZero
import SimplexReplay.Proofs.Run.Chronicle
import SimplexReplay.Proofs.Session.Returned

/-!
# A solve fails only at its cap

A well-shaped program can hold any doubles, infinite and undefined ones included.  Its solve still
never divides by zero and never leaves its tableau or its names: the element of a pivot lies above
a tolerance that is at least zero, and every column that becomes basic has entered before.  With
the report and the viewer off, a solve therefore returns or meets its cap.
-/

namespace SimplexReplay

variable {m n : Nat}

/-- A point from which a run can go on: each row has a basic column with a name, a column that
enters has a name, and a pivot that is chosen lies within the tableau on an element other than
zero. -/
structure Point.Safe {α : Type} [Scalar α] (setting : Setting α) (nameCount : Nat)
    (point : Point α m n) : Prop where
  length_basis : point.basis.length = m
  basic_inside : ∀ basic ∈ point.basis, 0 ≤ basic ∧ basic < (nameCount : Int)
  entering_inside : ∀ column : Fin n,
    point.tableau.entering setting.tolerance setting.rule = some column → column.val < nameCount
  choice_made : ∃ choice, point.tableau.choice setting.tolerance setting.rule = .ok choice
  pivot_made : ∀ (row : Fin m) (column : Fin n),
    point.tableau.choice setting.tolerance setting.rule = .ok (.pivot row column) →
      (point.tableau.body row column.castSucc == 0) = false ∧
        point.tableau.pivotAt (row.val + 1 : Nat) column.val =
          .ok (point.afterPivot row column).tableau

theorem Tableau.pivotAt_eq_ok {α : Type} [Scalar α] {tableau : Tableau α m n} {row : Fin m}
    {column : Fin n} (nonzero : (tableau.body row column.castSucc == 0) = false) :
    tableau.pivotAt (row.val + 1 : Nat) column.val =
      .ok (tableau.pivot row.succ column.castSucc) := by
  have pivoted := tableau.pivotAt_val row.succ column.castSucc
  change _ = if (tableau.body row column.castSucc == 0) = true then _ else _ at pivoted
  rwa [nonzero, if_neg Bool.false_ne_true] at pivoted

namespace Program

variable {α : Type} [Scalar α] [Scalar.SeparatesZero α] (program : Program α)
  (wellShaped : program.WellShaped) {tolerance : α} (nonneg : 0 ≤ tolerance)
include wellShaped nonneg

theorem safe_of_reaches (rule : PivotRule)
    {point : Point α program.constraintCount program.columnCount}
    (reaches : program.start.Reaches (program.setting tolerance rule) point) :
    point.Safe (program.setting tolerance rule) program.columnNames.length := by
  obtain ⟨columns, tracks⟩ := reaches.exists_tracks program.start_tracks
  have someRow : program.constraintCount ≠ 0 := Nat.ne_of_gt wellShaped.2.1
  refine ⟨?_, ?_, ?_, point.tableau.choice_ok someRow tolerance rule, ?_⟩
  · rw [tracks, List.length_ofFn]
  · intro basic basicMem
    rw [tracks] at basicMem
    obtain ⟨row, rfl⟩ := List.mem_ofFn.mp basicMem
    have inside := (columns row).isLt
    rw [length_columnNames]
    omega
  · intro column _
    rw [length_columnNames]
    exact column.isLt
  · intro row column chosen
    have leaves := (Tableau.choice_eq_pivot_iff.mp chosen).2
    have nonzero : (point.tableau.body row column.castSucc == 0) = false :=
      Scalar.SeparatesZero.beq_zero_of_lt nonneg (Tableau.lt_body_of_leaving leaves)
    exact ⟨nonzero, Tableau.pivotAt_eq_ok nonzero⟩

/-- A solve of a well-shaped program ends or meets its cap. -/
theorem ending_course (rule : PivotRule) (cap : Nat) :
    (∃ status, (program.course tolerance rule cap).ending = .reached status) ∨
      (program.course tolerance rule cap).ending = .capped := by
  obtain ⟨inner, trail, wraps⟩ := program.exists_trail wellShaped
    (fun _ above => Scalar.SeparatesZero.beq_zero_of_lt nonneg above) rule cap
  rw [wraps.ending_eq]
  rcases trail.ending_cases with optimal | unbounded | capped
  · exact Or.inl ⟨_, optimal⟩
  · exact Or.inl ⟨_, unbounded⟩
  · exact Or.inr capped

theorem safe_of_mem_steps (rule : PivotRule) (cap : Nat)
    {step : Step α program.constraintCount program.columnCount}
    (stepMem : step ∈ (program.course tolerance rule cap).steps) :
    step.point.Safe (program.setting tolerance rule) program.columnNames.length := by
  have unbroken : ∀ fault, (program.course tolerance rule cap).ending ≠ .broken fault := by
    intro fault broken
    rcases program.ending_course wellShaped nonneg rule cap with ⟨status, reached⟩ | capped
    · exact nomatch reached.symm.trans broken
    · exact nomatch capped.symm.trans broken
  obtain ⟨path, chronicle⟩ := program.exists_chronicle tolerance rule cap unbroken
  obtain ⟨index, found⟩ := List.getElem?_of_mem stepMem
  obtain ⟨pointEq, inside⟩ := chronicle.point_eq found
  rw [pointEq]
  exact program.safe_of_reaches wellShaped nonneg rule (chronicle.reaches inside)

end Program

theorem Options.parts_of_read {program : Option (Program Float)} {fields : Fields}
    {options : Options} (accepted : read program fields = .ok options) :
    readTolerance (Datum.field? toleranceName fields) = .ok options.tolerance ∧
      readCap program (Datum.field? capName fields) = .ok options.cap := by
  cases toleranceRead : readTolerance (Datum.field? toleranceName fields) with
  | error fault => simp [read, toleranceRead, bind, Except.bind] at accepted
  | ok tolerance =>
      cases ruleRead : readRule (Datum.field? ruleName fields) with
      | error fault => simp [read, toleranceRead, ruleRead, bind, Except.bind] at accepted
      | ok rule =>
          cases capRead : readCap program (Datum.field? capName fields) with
          | error fault =>
              simp [read, toleranceRead, ruleRead, capRead, bind, Except.bind] at accepted
          | ok cap =>
              simp only [read, toleranceRead, ruleRead, capRead, bind, Except.bind] at accepted
              split at accepted
              · contradiction
              · obtain rfl := Except.ok.inj accepted
                exact ⟨rfl, rfl⟩

theorem Options.exists_cap_of_read {program : Program Float} {fields : Fields}
    {options : Options} (accepted : read (some program) fields = .ok options) :
    ∃ cap, options.cap = some cap := by
  have capRead := (parts_of_read accepted).2
  unfold readCap at capRead
  split at capRead
  · exact ⟨_, (Except.ok.inj capRead).symm⟩
  · exact ⟨_, (Except.ok.inj capRead).symm⟩
  · split at capRead
    · contradiction
    · exact ⟨_, (Except.ok.inj capRead).symm⟩
  · contradiction

namespace Session

variable {journal middle : Journal}

theorem run_bind_of_ok {α β : Type} {first : Session α} {value : α}
    (returned : first.run journal = (.ok value, middle)) (next : α → Session β) :
    (first >>= next).run journal = (next value).run middle := by
  rw [run_bind, returned]

theorem run_ofResult_of_eq {α : Type} {result : Except Fault α} {value : α}
    (found : result = .ok value) : (ofResult result).run journal = (.ok value, journal) := by
  rw [found]
  rfl

theorem run_giveNotices (notices : List String) :
    (giveNotices notices).run journal =
      (.ok (), { journal with notices := journal.notices ++ notices }) :=
  rfl

variable {program : Program Float} {fields : Fields} {options : Options}

/-- With the report and the viewer off, a solve goes through its course, whether it is told or not,
and then returns or raises what the course has ended with. -/
theorem exists_run_solve (wellShaped : program.WellShaped)
    (accepted : Options.read (some program) fields = .ok options)
    (noReport : options.reportPath = none) (noViewer : options.launchViewer.isOn = false)
    {cap : Nat} (capEq : options.cap = some cap)
    {course : Course Float program.constraintCount program.columnCount}
    (made : program.course options.tolerance options.rule cap = course)
    (shown : ∀ step ∈ course.steps, ∃ text,
      step.table (program.setting options.tolerance options.rule) = .ok text)
    (journal : Journal) :
    ∃ final, (solve program fields).run journal =
      ((course.ending.status (.ofNat cap)).map fun status =>
        ⟨status, course.solution?, course.last, course.pivots, program.columnNames,
          (History.ofSteps (course.steps.map Step.entry)).close⟩, final) := by
  have solved := Program.solve_eq_ok_iff.mpr ⟨wellShaped, made⟩
  obtain ⟨final, told⟩ := exists_run_tell shown options.verbose.isOn
    { journal with notices := journal.notices ++ program.relaxationNotices }
  refine ⟨final, ?_⟩
  rw [solve, run_bind_of_ok (run_ofResult_of_eq accepted)]
  simp only [capEq, Option.getD_some]
  rw [run_bind_of_ok (run_ofResult_of_eq solved), run_bind_of_ok (run_giveNotices _),
    run_bind_of_ok told, run_bind, noReport, noViewer]
  cases course.ending.status (.ofNat cap) <;> rfl

/-- With the report and the viewer off, a solve of a program of the right shape returns or meets its
cap, and every point on its way is safe. -/
theorem returns_or_notConverged (shaped : program.checkShape = .ok ())
    (accepted : Options.read (some program) fields = .ok options)
    (noReport : options.reportPath = none) (noViewer : options.launchViewer.isOn = false) :
    ∃ cap, options.cap = some cap ∧
      let course := program.course options.tolerance options.rule cap
      (∀ journal, ∃ final,
        (∃ solved, course.ending = .reached solved.status ∧
          (solve program fields).run journal = (.ok solved, final)) ∨
        (course.ending = .capped ∧
          (solve program fields).run journal =
            (.error (.notConverged (toString cap)), final))) ∧
      ∀ step ∈ course.steps, step.point.Safe
        (program.setting options.tolerance options.rule) program.columnNames.length := by
  obtain ⟨cap, capEq⟩ := Options.exists_cap_of_read accepted
  have wellShaped := program.checkShape_eq_ok_iff.mp shaped
  have nonneg : 0 ≤ options.tolerance :=
    Options.zero_le_of_readTolerance (Options.parts_of_read accepted).1
  have safe : ∀ step ∈ (program.course options.tolerance options.rule cap).steps,
      step.point.Safe (program.setting options.tolerance options.rule)
        program.columnNames.length :=
    fun _ stepMem => program.safe_of_mem_steps wellShaped nonneg options.rule cap stepMem
  have shown : ∀ step ∈ (program.course options.tolerance options.rule cap).steps, ∃ text,
      step.table (program.setting options.tolerance options.rule) = .ok text := by
    intro step stepMem
    apply step.exists_table rfl
    · rw [Program.length_columnNames]
    · exact ge_of_eq (safe step stepMem).length_basis
  refine ⟨cap, capEq, ?_, safe⟩
  intro journal
  obtain ⟨final, ran⟩ := exists_run_solve wellShaped accepted noReport noViewer capEq rfl shown
    journal
  refine ⟨final, ?_⟩
  rcases program.ending_course wellShaped nonneg options.rule cap with ⟨status, reached⟩ | capped
  · rw [reached] at ran
    exact Or.inl ⟨_, reached, ran⟩
  · rw [capped] at ran
    exact Or.inr ⟨capped, ran⟩

end Session

/-- A program with an infinite and an undefined cost, whose first constraint has an undefined
coefficient and an infinite bound. -/
def Program.wild : Program Float where
  objective := .maximize
  costs := [1.0 / 0.0, 0.0 / 0.0, 1]
  constraints :=
    [upperBound [1, 1e308, 0.0 / 0.0] (1.0 / 0.0), ⟨[1e-9, 0, 1], .atLeast, -1⟩]

/-- The wild program is told to its end without a tolerance. -/
theorem Session.wild_returns_or_notConverged :
    Program.wild.checkShape = .ok () ∧
      ∃ options, Options.read (some Program.wild) [("tol", .whole 0), ("verbose", .truth true)] =
          .ok options ∧
        options.reportPath = none ∧ options.launchViewer.isOn = false ∧
        ∃ cap, options.cap = some cap ∧
          let course := Program.wild.course options.tolerance options.rule cap
          (∀ journal, ∃ final,
            (∃ solved, course.ending = .reached solved.status ∧
              (solve Program.wild [("tol", .whole 0), ("verbose", .truth true)]).run journal =
                (.ok solved, final)) ∨
            (course.ending = .capped ∧
              (solve Program.wild [("tol", .whole 0), ("verbose", .truth true)]).run journal =
                (.error (.notConverged (toString cap)), final))) ∧
          ∀ step ∈ course.steps, step.point.Safe
            (Program.wild.setting options.tolerance options.rule) Program.wild.columnNames.length :=
  ⟨rfl, _, rfl, rfl, rfl, returns_or_notConverged rfl rfl rfl rfl⟩

end SimplexReplay
