import SimplexReplay.Program.Loose
import SimplexReplay.Proofs.Run.Chronicle
import SimplexReplay.Proofs.Session.Returned

/-!
# Histories as replays

The history of a solve that returned is closed and replays its run: it starts with the initial
tableau, has two entries for each pivot, before and after it, and ends with the status.  Each pivot
is the one that the tableau of its first entry asks for, and its second entry shows what it makes
of that tableau and of the basis.
-/

namespace SimplexReplay

variable {m n : Nat}

namespace Entry

/-- An entry of the kind for the pivot of the number shows a point. -/
structure Shows (entry : Entry) (kind : String) (iteration : Nat) (point : Point Float m n) :
    Prop where
  kind_eq : entry.kind = .text kind
  iteration_eq : entry.iteration = .whole iteration
  snapshot_eq : entry.snapshot = .ofTableau point.tableau
  basis_eq : entry.basis = some point.basis

/-- An entry shows the same as an earlier one. -/
structure Repeats (entry earlier : Entry) : Prop where
  snapshot_eq : entry.snapshot = earlier.snapshot
  basis_eq : entry.basis = earlier.basis

/-- An entry announces the pivot that is chosen at a point. -/
structure Announces (entry : Entry) (options : Options) (names : List String)
    (point : Point Float m n) (row : Fin m) (column : Fin n) : Prop where
  entering_eq : point.tableau.entering options.tolerance options.rule = some column
  leavingRow_eq : point.tableau.leavingRow column.castSucc options.tolerance = .ok (some row)
  place_eq : entry.pivot = some [.whole (row.val + 1), .whole column.val]
  entering_note : ∃ name, names[column.val]? = some name ∧
    Datum.field? "entering" entry.notes = some (.text name)
  leaving_note : ∃ (basic : Nat) (name : String), point.basis[row.val]? = some (basic : Int) ∧
    names[basic]? = some name ∧ Datum.field? "leaving" entry.notes = some (.text name)
  ratios_note : Datum.field? ratiosNote entry.notes =
    some (SimplexReplay.ratiosNote
      (point.tableau.ratios column.castSucc options.tolerance).toList)

end Entry

theorem Step.entry_shows (step : Step Float m n) :
    step.entry.Shows step.event.kind step.iteration step.point :=
  ⟨rfl, rfl, rfl, rfl⟩

theorem Step.entry_repeats {step earlier : Step Float m n} (same : step.point = earlier.point) :
    step.entry.Repeats earlier.entry := by
  obtain ⟨tableauEq, basisEq⟩ := Point.mk.inj same
  exact ⟨congrArg Snapshot.ofTableau tableauEq, congrArg some basisEq⟩

namespace Program

/-- The entries show the pivot of a moment: the one before it shows a point, the next one announces
the pivot chosen there, and the last one shows what the pivot makes of the point. -/
def ReplaysPivot (program : Program Float) (options : Options) (entries : List Entry)
    (moment : Nat) : Prop :=
  ∃ (earlier announced made : Entry)
    (point : Point Float program.constraintCount program.columnCount)
    (row : Fin program.constraintCount) (column : Fin program.columnCount),
    entries[2 * moment]? = some earlier ∧ entries[2 * moment + 1]? = some announced ∧
    entries[2 * moment + 2]? = some made ∧
    announced.Repeats earlier ∧ announced.Shows "pivot" (moment + 1) point ∧
    announced.Announces options program.columnNames point row column ∧
    made.Shows "after_pivot" (moment + 1) (point.afterPivot row column)

/-- A history is closed and replays the run of a program that returned. -/
structure Replays (program : Program Float) (options : Options)
    (solved : Solved program.constraintCount program.columnCount) : Prop where
  closed : solved.history.closed = true
  size_eq : solved.history.size = 2 * solved.pivots + 2
  initial : ∃ tableau entry, program.tableau = .ok tableau ∧
    solved.history.steps[0]? = some entry ∧
    entry.Shows "initial" 0 (⟨tableau, program.slackBasis⟩ : Point Float _ _)
  pivot : ∀ moment < solved.pivots, program.ReplaysPivot options solved.history.steps moment
  last : ∃ earlier entry, solved.history.steps[2 * solved.pivots]? = some earlier ∧
    solved.history.steps[2 * solved.pivots + 1]? = some entry ∧ entry.Repeats earlier ∧
    entry.Shows solved.status.word (solved.status.lastIteration solved.pivots) solved.last

variable {program : Program Float} {options : Options}
  {course : Course Float program.constraintCount program.columnCount}
  {path : Nat → Point Float program.constraintCount program.columnCount}

theorem names_of_nameText {tolerance : Float} {rule : PivotRule} {position : Nat} {text : String}
    (inside : position < program.columnCount)
    (named : (program.setting tolerance rule).nameText position = .ok text) :
    program.columnNames[position]? = some text := by
  have listed : position < program.columnNames.length := by
    rw [length_columnNames]
    exact inside
  rw [program.nameText_eq tolerance rule listed, Except.ok.injEq] at named
  rw [List.getElem?_eq_getElem listed, named]

theorem announces_of_links
    {exchange : Exchange Float program.constraintCount program.columnCount}
    {point next : Point Float program.constraintCount program.columnCount}
    (links : exchange.Links (program.setting options.tolerance options.rule) point next)
    {columns : Fin program.constraintCount → Fin program.columnCount}
    (tracks : point.Tracks columns) (iteration : Nat) :
    (point.step iteration (.pivot exchange)).entry.Announces options program.columnNames point
      exchange.row exchange.column := by
  obtain ⟨entered, leaves⟩ := Tableau.choice_eq_pivot_iff.mp links.chosen
  have basicEq : exchange.basic = (columns exchange.row).val :=
    Option.some.inj (links.basic_eq.symm.trans (tracks.getElem? exchange.row))
  have leavingName := links.leaving_eq
  rw [basicEq] at leavingName
  refine ⟨entered, ?_, rfl, ?_, ?_, ?_⟩
  · have someRow : program.constraintCount ≠ 0 := Nat.ne_of_gt exchange.row.pos
    rw [Tableau.leavingRow, if_neg someRow]
    exact congrArg Except.ok leaves
  · exact ⟨exchange.entering, names_of_nameText exchange.column.isLt links.entering_eq, rfl⟩
  · exact ⟨(columns exchange.row).val, exchange.leaving, tracks.getElem? exchange.row,
      names_of_nameText (columns exchange.row).isLt leavingName, rfl⟩
  · have ratiosEq : exchange.ratios =
        point.tableau.ratios exchange.column.castSucc options.tolerance := links.ratios_eq
    rw [← ratiosEq]
    rfl

theorem replaysPivot_of_recorded
    (chronicle : program.Chronicle (program.setting options.tolerance options.rule) course path)
    {moment : Nat} (inside : moment < course.pivots) :
    program.ReplaysPivot options (course.steps.map Step.entry) moment := by
  obtain ⟨exchange, links, before, after⟩ := chronicle.records.turn moment inside
  rw [List.getElem?_tail, Nat.zero_add] at before after
  obtain ⟨columns, tracks⟩ :=
    (chronicle.reaches (le_of_lt inside)).exists_tracks program.start_tracks
  obtain ⟨step, found, pointEq⟩ := chronicle.exists_arrival (le_of_lt inside)
  refine ⟨step.entry, ((path moment).step (moment + 1) (.pivot exchange)).entry,
    ((path (moment + 1)).step (moment + 1) (.afterPivot exchange)).entry,
    path moment, exchange.row, exchange.column, ?_, ?_, ?_, Step.entry_repeats pointEq.symm,
    Step.entry_shows _, announces_of_links links tracks _, ?_⟩
  · rw [List.getElem?_map, found, Option.map_some]
  · rw [List.getElem?_map, before, Option.map_some]
  · rw [List.getElem?_map, after, Option.map_some]
  · rw [← links.next_eq]
    exact Step.entry_shows _

end Program

/-- The history of a solve that returned replays its run, under any options. -/
theorem Session.exists_replays_of_solve {program : Program Float} {fields : Fields}
    {journal final : Journal} {solved : Solved program.constraintCount program.columnCount}
    (returned : (Session.solve program fields).run journal = (.ok solved, final)) :
    ∃ options, Options.read (some program) fields = .ok options ∧
      solved.names = program.columnNames ∧ program.Replays options solved := by
  obtain ⟨options, course, optionsRead, courseMade, reached, historyEq, lastEq, pivotsEq,
    namesEq⟩ := exists_course_of_solve returned
  obtain ⟨wellShaped, rfl⟩ := Program.solve_eq_ok_iff.mp courseMade
  obtain ⟨path, chronicle⟩ := program.exists_chronicle options.tolerance options.rule
    (options.cap.getD 0) (fun fault broken => nomatch reached.symm.trans broken)
  have stepsEq : solved.history.steps = (program.course options.tolerance options.rule
      (options.cap.getD 0)).steps.map Step.entry := by
    rw [historyEq]
    rfl
  refine ⟨options, optionsRead, namesEq, ?_, ?_, ?_, ?_, ?_⟩
  · rw [historyEq]
    rfl
  · rw [History.size, stepsEq, List.length_map, chronicle.length_steps_of_reached reached,
      pivotsEq]
  · refine ⟨program.initialTableau, (program.start.step 0 .initial).entry,
      Program.tableau_eq_ok wellShaped, ?_, Step.entry_shows (program.start.step 0 .initial)⟩
    rw [stepsEq, List.getElem?_map, chronicle.head_eq, Option.map_some]
  · intro moment inside
    rw [stepsEq]
    exact Program.replaysPivot_of_recorded chronicle (pivotsEq ▸ inside)
  · obtain ⟨earlier, earlierFound, earlierEq⟩ := chronicle.exists_arrival (le_refl _)
    obtain ⟨step, found, kindEq, iterationEq, pointEq⟩ :=
      chronicle.exists_last_of_reached reached
    have same : step.point = earlier.point := by
      rw [pointEq, earlierEq, chronicle.last_eq]
    refine ⟨earlier.entry, step.entry, ?_, ?_, Step.entry_repeats same, ?_⟩
    · rw [stepsEq, List.getElem?_map, pivotsEq, earlierFound, Option.map_some]
    · rw [stepsEq, List.getElem?_map, pivotsEq, found, Option.map_some]
    · rw [pivotsEq, lastEq, ← kindEq, ← iterationEq, ← pointEq]
      exact Step.entry_shows step

/-- The production plan is found by three pivots, and its history replays them in eight entries. -/
theorem Session.replays_production :
    ∃ solved final, (Session.solve Example.production.program []).run (Journal.ofLines []) =
        (.ok solved, final) ∧
      solved.pivots = 3 ∧ solved.status = .optimal ∧ solved.history.size = 8 ∧
      ∃ options, Options.read (some Example.production.program) [] = .ok options ∧
        Example.production.program.Replays options solved := by
  have shown :
      ((Session.solve Example.production.program []).run (Journal.ofLines [])).1.toOption.map
        (fun solved => (solved.pivots, solved.status)) = some (3, .optimal) := by
    decide +kernel
  cases outcome : (Session.solve Example.production.program []).run (Journal.ofLines []) with
  | mk answer final =>
      rw [outcome] at shown
      cases answer with
      | error fault => exact nomatch shown
      | ok solved =>
          obtain ⟨pivotsEq, statusEq⟩ := Prod.mk.inj (Option.some.inj shown)
          obtain ⟨options, optionsRead, -, replays⟩ := exists_replays_of_solve outcome
          have sizeEq := replays.size_eq
          rw [pivotsEq] at sizeEq
          exact ⟨solved, final, rfl, pivotsEq, statusEq, sizeEq, options, optionsRead, replays⟩

end SimplexReplay
