import SimplexReplay.Proofs.MadeTables
import SimplexReplay.Proofs.Run.Solved
import SimplexReplay.Session.Solve

/-!
# Sessions that return

What a session returned comes from its parts, each of which has returned as well.  A solve in a
session returns what the course of its program shows, however much of it is told, written to a
report or opened in a viewer.  Conversely, a course is told to its end, and left as it was, when no
name goes beyond its columns and every step has the basic column of each row.
-/

namespace SimplexReplay

variable {m n : Nat}

theorem Course.eq_of_tell {course : Course Float m n} {setting : Setting Float}
    (unbroken : ∀ fault, (course.tell setting).2.ending ≠ .broken fault) :
    (course.tell setting).2 = course := by
  rw [tell] at unbroken ⊢
  split at unbroken
  · rfl
  · rename_i step fault broken
    exact absurd rfl (unbroken fault)

theorem Ending.status_eq_ok_iff {ending : Ending} {cap : Cap} {status : Status} :
    ending.status cap = .ok status ↔ ending = .reached status := by
  cases ending <;> simp [Ending.status]

namespace Session

variable {α β : Type} {journal final : Journal}

theorem run_bind (first : Session α) (next : α → Session β) (journal : Journal) :
    (first >>= next).run journal =
      match first.run journal with
      | (.ok value, middle) => (next value).run middle
      | (.error fault, middle) => (.error fault, middle) := by
  change ((first.run >>= ExceptT.bindCont next) journal : Except Fault β × Journal) = _
  simp only [bind, StateT.bind]
  cases first.run journal with
  | mk answer middle => cases answer <;> rfl

theorem exists_of_bind {first : Session α} {next : α → Session β} {result : β}
    (returned : (first >>= next).run journal = (.ok result, final)) :
    ∃ value middle, first.run journal = (.ok value, middle) ∧
      (next value).run middle = (.ok result, final) := by
  rw [run_bind] at returned
  cases outcome : first.run journal with
  | mk answer middle =>
      rw [outcome] at returned
      cases answer with
      | error fault => exact nomatch returned
      | ok value => exact ⟨value, middle, rfl, returned⟩

theorem eq_of_run_ofResult {result : Except Fault α} {value : α}
    (returned : (ofResult result).run journal = (.ok value, final)) :
    result = .ok value :=
  congrArg Prod.fst returned

theorem eq_of_run_pure {value result : α}
    (returned : (pure value : Session α).run journal = (.ok result, final)) : value = result :=
  Except.ok.inj (congrArg Prod.fst returned)

theorem eq_of_tell {isTold : Bool} {setting : Setting Float} {course told : Course Float m n}
    (returned : (tell isTold setting course).run journal = (.ok told, final))
    (unbroken : ∀ fault, told.ending ≠ .broken fault) : told = course := by
  cases isTold with
  | false => exact (eq_of_run_pure returned).symm
  | true =>
      obtain ⟨_, _, _, returned⟩ := exists_of_bind returned
      obtain rfl := eq_of_run_pure returned
      exact Course.eq_of_tell unbroken

theorem exists_course_of_solve {program : Program Float} {fields : Fields}
    {solved : Solved program.constraintCount program.columnCount}
    (returned : (solve program fields).run journal = (.ok solved, final)) :
    ∃ options course,
      Options.read (some program) fields = .ok options ∧
      program.solve options.tolerance options.rule (options.cap.getD 0) = .ok course ∧
      course.ending = .reached solved.status ∧
      solved.history = (History.ofSteps (course.steps.map Step.entry)).close ∧
      solved.last = course.last ∧ solved.pivots = course.pivots ∧
      solved.names = program.columnNames := by
  obtain ⟨options, _, optionsRead, returned⟩ := exists_of_bind returned
  obtain ⟨course, _, courseMade, returned⟩ := exists_of_bind returned
  obtain ⟨_, _, _, returned⟩ := exists_of_bind returned
  obtain ⟨told, _, courseTold, returned⟩ := exists_of_bind returned
  obtain ⟨status, _, statusReached, finished⟩ := exists_of_bind returned
  have reached : told.ending = .reached status :=
    Ending.status_eq_ok_iff.mp (eq_of_run_ofResult statusReached)
  have unbroken : ∀ fault, told.ending ≠ .broken fault := by
    intro fault broken
    exact nomatch reached.symm.trans broken
  obtain rfl := eq_of_tell courseTold unbroken
  have settled : solved = ⟨status, told.solution?, told.last, told.pivots, program.columnNames,
      (History.ofSteps (told.steps.map Step.entry)).close⟩ := by
    -- Neither the report nor the viewer changes what is returned.
    dsimp only at finished
    split at finished
    · obtain ⟨_, _, _, viewed⟩ := exists_of_bind finished
      split at viewed
      · obtain ⟨_, _, _, ended⟩ := exists_of_bind viewed
        exact (eq_of_run_pure ended).symm
      · exact (eq_of_run_pure viewed).symm
    · split at finished
      · obtain ⟨_, _, _, ended⟩ := exists_of_bind finished
        exact (eq_of_run_pure ended).symm
      · exact (eq_of_run_pure finished).symm
  rw [settled]
  exact ⟨options, told, eq_of_run_ofResult optionsRead, eq_of_run_ofResult courseMade, reached,
    rfl, rfl, rfl, rfl⟩

end Session

theorem Event.ratios_eq_nil_or_length {α : Type} (event : Event α m n) :
    event.ratios = [] ∨ event.ratios.length = m := by
  cases event with
  | initial => exact Or.inl rfl
  | pivot exchange => exact Or.inr exchange.ratios.length_toList
  | afterPivot exchange => exact Or.inl rfl
  | unbounded column entering ratios => exact Or.inr ratios.length_toList
  | optimal solution => exact Or.inl rfl

theorem Step.exists_table {setting : Setting Float} {names : List String}
    (listed : setting.names = .ofTexts names) (short : names.length ≤ n) (step : Step Float m n)
    (based : m ≤ step.basis.length) : ∃ text, step.table setting = .ok text := by
  have compared : step.event.ratios.map shownRatio = [] ∨
      m ≤ (step.event.ratios.map shownRatio).length := by
    rw [List.map_eq_nil_iff, List.length_map]
    exact step.event.ratios_eq_nil_or_length.imp_right ge_of_eq
  rw [Step.table, listed]
  exact step.tableau.exists_table short based compared setting.tolerance

theorem Telling.broken_ofSteps {setting : Setting Float} {steps : List (Step Float m n)}
    (shown : ∀ step ∈ steps, ∃ text, step.table setting = .ok text) :
    (Telling.ofSteps setting steps).broken = none := by
  induction steps with
  | nil => rfl
  | cons step rest ih =>
      obtain ⟨text, textEq⟩ := shown step List.mem_cons_self
      rw [ofSteps, textEq]
      exact ih fun other otherMem => shown other (List.mem_cons_of_mem step otherMem)

theorem Course.tell_eq {setting : Setting Float} {course : Course Float m n}
    (shown : ∀ step ∈ course.steps, ∃ text, step.table setting = .ok text) :
    (course.tell setting).2 = course := by
  rw [tell]
  simp only [Telling.broken_ofSteps shown]

/-- Telling a course whose tables can all be made changes nothing but the journal. -/
theorem Session.exists_run_tell {setting : Setting Float} {course : Course Float m n}
    (shown : ∀ step ∈ course.steps, ∃ text, step.table setting = .ok text) (isTold : Bool)
    (journal : Journal) :
    ∃ middle, (tell isTold setting course).run journal = (.ok course, middle) := by
  cases isTold with
  | false => exact ⟨journal, rfl⟩
  | true =>
      cases made : course.tell setting with
      | mk printed told =>
          obtain rfl : told = course := by
            rw [← Course.tell_eq shown, made]
          refine ⟨{ journal with printed := journal.printed ++ printed }, ?_⟩
          simp only [tell, made]
          rfl

end SimplexReplay
