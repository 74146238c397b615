import SimplexReplay.History

/-!
# Histories are append-only

A history that starts empty keeps its cursor on its steps and its steps in their order, whatever
commands are given to it and however many of them fail.  The commands are read here as work in
place, in which a fault leaves what was changed before it.  No command changes anything before it
fails, so this reading and `History.attempt` agree.
-/

namespace SimplexReplay.History

variable {σ : Type}

/-- Work on a history in place: what is changed before a fault stays changed. -/
abbrev Work (σ α : Type) := ExceptT Fault (StateM (History σ)) α

/-- The work that moves the cursor and answers the step that is then looked at. -/
def Work.move (moved : History σ → History σ) : Work σ (Option σ) := do
  modify moved
  return (← getThe (History σ)).current

namespace Command

def work : Command σ → Work σ (Option σ)
  | .record step => do
      if (← getThe (History σ)).closed then
        throw .historyClosed
      let recorded ← ofExcept step
      modify fun history : History σ => { history with steps := history.steps ++ [recorded] }
      return some recorded
  | .close => do
      modify (σ := History σ) History.close
      return none
  | .advance => .move History.advance
  | .retreat => .move History.retreat
  | .toFirst => .move History.toFirst
  | .toLast => .move History.toLast
  | .jumpTo position => do
      let number ← ofExcept position
      Work.move fun history => history.jumpTo number

def answer (command : Command σ) (next : History σ) : Option σ :=
  match command with
  | .record _ => next.steps.getLast?
  | .close => none
  | .advance | .retreat | .toFirst | .toLast | .jumpTo _ => next.current

/-- The work of a command comes to what performing it comes to, and leaves the history that an
attempt leaves. -/
theorem run_work (command : Command σ) (history : History σ) :
    command.work.run history =
      ((history.perform command).map command.answer, history.attempt command) := by
  cases command with
  | record step =>
      obtain ⟨steps, cursor, closed⟩ := history
      cases closed with
      | true => rfl
      | false =>
          cases step with
          | error fault => rfl
          | ok recorded =>
              have lastEq : some recorded = (steps ++ [recorded]).getLast? :=
                List.getLast?_concat.symm
              exact congrArg (Except.ok ·, (⟨steps ++ [recorded], cursor, false⟩ : History σ))
                lastEq
  | jumpTo position => cases position <;> rfl
  | close | advance | retreat | toFirst | toLast => rfl

def step? : Command σ → Option σ
  | .record (.ok step) => some step
  | .record (.error _) | .close | .advance | .retreat | .toFirst | .toLast | .jumpTo _ => none

def isClose : Command σ → Bool
  | .close => true
  | .record _ | .advance | .retreat | .toFirst | .toLast | .jumpTo _ => false

theorem isClose_iff {command : Command σ} : command.isClose = true ↔ command = .close := by
  cases command <;> simp [isClose]

end Command

/-- The cursor stands on a step, or at the start of a history without steps. -/
def InRange (history : History σ) : Prop :=
  history.cursor ≤ history.size - 1

theorem InRange.advance_eq {history : History σ} (inRange : history.InRange) :
    history.advance = { history with cursor := min (history.cursor + 1) (history.size - 1) } := by
  have bound : history.cursor ≤ history.size - 1 := inRange
  by_cases before : history.cursor + 1 < history.size
  · rw [advance, if_pos before, Nat.min_eq_left (by omega)]
  · rw [advance, if_neg before, Nat.min_eq_right (by omega), ← Nat.le_antisymm bound (by omega)]

theorem perform_record_of_closed {history : History σ} (closed : history.closed = true)
    (step : Except Fault σ) :
    history.perform (.record step) = .error .historyClosed :=
  if_pos closed

theorem perform_record_of_open {history : History σ} (isOpen : history.closed = false)
    (step : Except Fault σ) :
    history.perform (.record step) =
      step.map fun recorded => { history with steps := history.steps ++ [recorded] } :=
  if_neg (Bool.eq_false_iff.mp isOpen)

theorem attempt_of_error {history : History σ} {command : Command σ} {fault : Fault}
    (failed : history.perform command = .error fault) : history.attempt command = history := by
  rw [attempt, failed]

theorem attempt_of_ok {history next : History σ} {command : Command σ}
    (done : history.perform command = .ok next) : history.attempt command = next := by
  rw [attempt, done]

/-- A command records a step, closes the history, or does no more than move the cursor on the
steps. -/
theorem attempt_cases {history : History σ} (inRange : history.InRange) (command : Command σ) :
    (∃ step, command = .record (.ok step) ∧ history.closed = false ∧
        history.attempt command = { history with steps := history.steps ++ [step] }) ∨
      (command = .close ∧ history.attempt command = history.close) ∨
      (command ≠ .close ∧ (history.closed = false → command.step? = none) ∧
        ∃ cursor ≤ history.size - 1, history.attempt command = { history with cursor }) := by
  cases command with
  | record step =>
      by_cases closed : history.closed = true
      · have failed := perform_record_of_closed closed step
        exact .inr (.inr ⟨nofun, by simp [closed], history.cursor, inRange,
          attempt_of_error failed⟩)
      · have isOpen := Bool.eq_false_iff.mpr closed
        have performed := perform_record_of_open isOpen step
        cases step with
        | error fault =>
            exact .inr (.inr ⟨nofun, fun _ => rfl, history.cursor, inRange,
              attempt_of_error performed⟩)
        | ok recorded => exact .inl ⟨recorded, rfl, isOpen, attempt_of_ok performed⟩
  | close => exact .inr (.inl ⟨rfl, rfl⟩)
  | advance =>
      exact .inr (.inr ⟨nofun, fun _ => rfl, _, Nat.min_le_right _ _, inRange.advance_eq⟩)
  | retreat =>
      have back : history.cursor - 1 ≤ history.size - 1 := Nat.le_trans (Nat.sub_le _ 1) inRange
      exact .inr (.inr ⟨nofun, fun _ => rfl, _, back, rfl⟩)
  | toFirst => exact .inr (.inr ⟨nofun, fun _ => rfl, 0, Nat.zero_le _, rfl⟩)
  | toLast => exact .inr (.inr ⟨nofun, fun _ => rfl, _, Nat.le_refl _, rfl⟩)
  | jumpTo position =>
      cases position with
      | error fault => exact .inr (.inr ⟨nofun, fun _ => rfl, history.cursor, inRange, rfl⟩)
      | ok number => exact .inr (.inr ⟨nofun, fun _ => rfl, _, Nat.min_le_right _ _, rfl⟩)

theorem InRange.attempt {history : History σ} (inRange : history.InRange) (command : Command σ) :
    (history.attempt command).InRange := by
  rcases attempt_cases inRange command with
    ⟨step, -, -, attempted⟩ | ⟨-, attempted⟩ | ⟨-, -, cursor, bound, attempted⟩
  · have grown : history.size - 1 ≤ (history.steps ++ [step]).length - 1 := by
      simp only [size, List.length_append]
      omega
    rw [attempted]
    exact Nat.le_trans inRange grown
  · rw [attempted]
    exact inRange
  · rw [attempted]
    exact bound

theorem InRange.attemptAll {history : History σ} (inRange : history.InRange)
    (commands : List (Command σ)) : (history.attemptAll commands).InRange := by
  induction commands generalizing history with
  | nil => exact inRange
  | cons command rest ih => exact ih (inRange.attempt command)

theorem inRange_empty : (empty : History σ).InRange :=
  Nat.le_refl 0

theorem current_eq_none_iff {history : History σ} (inRange : history.InRange) :
    history.current = none ↔ history.steps = [] := by
  have bound : history.cursor ≤ history.steps.length - 1 := inRange
  rw [current, List.getElem?_eq_none_iff, ← List.length_eq_zero_iff]
  omega

/-- The steps that commands record: what they offer before the first close. -/
def recorded (commands : List (Command σ)) : List σ :=
  (commands.takeWhile fun command => !command.isClose).filterMap Command.step?

theorem closed_attempt_iff {history : History σ} (inRange : history.InRange)
    (command : Command σ) :
    (history.attempt command).closed = true ↔ history.closed = true ∨ command = .close := by
  rcases attempt_cases inRange command with
    ⟨step, rfl, isOpen, attempted⟩ | ⟨rfl, attempted⟩ | ⟨other, -, cursor, -, attempted⟩
  · simp [attempted]
  · simp [attempted, close]
  · simp [attempted, other]

theorem closed_attemptAll_iff {history : History σ} (inRange : history.InRange)
    (commands : List (Command σ)) :
    (history.attemptAll commands).closed = true ↔ history.closed = true ∨ .close ∈ commands := by
  induction commands generalizing history with
  | nil => simp [attemptAll]
  | cons command rest ih =>
      change ((history.attempt command).attemptAll rest).closed = true ↔ _
      rw [ih (inRange.attempt command), closed_attempt_iff inRange, List.mem_cons, or_assoc,
        eq_comm (a := command)]

theorem steps_attempt_of_closed {history : History σ} (inRange : history.InRange)
    (closed : history.closed = true) (command : Command σ) :
    (history.attempt command).steps = history.steps := by
  rcases attempt_cases inRange command with
    ⟨step, rfl, isOpen, -⟩ | ⟨rfl, attempted⟩ | ⟨-, -, cursor, -, attempted⟩
  · simp [closed] at isOpen
  · rw [attempted]
    rfl
  · rw [attempted]

theorem steps_attemptAll_of_closed {history : History σ} (inRange : history.InRange)
    (closed : history.closed = true) (commands : List (Command σ)) :
    (history.attemptAll commands).steps = history.steps := by
  induction commands generalizing history with
  | nil => rfl
  | cons command rest ih =>
      have stays := (closed_attempt_iff inRange command).mpr (.inl closed)
      exact (ih (inRange.attempt command) stays).trans
        (steps_attempt_of_closed inRange closed command)

/-- The commands given to an open history add the steps that they record, and nothing else. -/
theorem steps_attemptAll {history : History σ} (inRange : history.InRange)
    (isOpen : history.closed = false) (commands : List (Command σ)) :
    (history.attemptAll commands).steps = history.steps ++ recorded commands := by
  induction commands generalizing history with
  | nil => simp [attemptAll, recorded]
  | cons command rest ih =>
      have after := ih (inRange.attempt command)
      change ((history.attempt command).attemptAll rest).steps = _
      rcases attempt_cases inRange command with
        ⟨step, rfl, -, attempted⟩ | ⟨rfl, attempted⟩ | ⟨other, silent, cursor, -, attempted⟩
      · rw [after (by rw [attempted]; exact isOpen), attempted, List.append_assoc]
        rfl
      · have nowClosed : (history.attempt .close).closed = true := by rw [attempted]; rfl
        rw [steps_attemptAll_of_closed (inRange.attempt .close) nowClosed, attempted]
        exact (List.append_nil history.steps).symm
      · have goesOn : command.isClose = false :=
          Bool.eq_false_iff.mpr fun isClose => other (Command.isClose_iff.mp isClose)
        rw [after (by rw [attempted]; exact isOpen), attempted]
        simp [recorded, goesOn, silent isOpen]

theorem attemptAll_concat (history : History σ) (commands : List (Command σ))
    (command : Command σ) :
    history.attemptAll (commands ++ [command]) = (history.attemptAll commands).attempt command := by
  simp [attemptAll]

theorem attemptAll_advances {history : History σ} (inRange : history.InRange) (count : Nat) :
    history.attemptAll (List.replicate count .advance) =
      { history with cursor := min (history.cursor + count) (history.size - 1) } := by
  induction count with
  | zero => rw [Nat.add_zero, Nat.min_eq_left inRange]; rfl
  | succ count ih =>
      have reached := inRange.attemptAll (List.replicate count .advance)
      rw [List.replicate_succ', attemptAll_concat, attempt, perform, reached.advance_eq, ih]
      simp only [size, mk.injEq, true_and, and_true]
      omega

theorem attemptAll_retreats {history : History σ} (count : Nat) :
    history.attemptAll (List.replicate count .retreat) =
      { history with cursor := history.cursor - count } := by
  induction count with
  | zero => rfl
  | succ count ih =>
      rw [List.replicate_succ', attemptAll_concat, ih]
      rfl

/-- A row of advances ends where a jump by their number ends. -/
theorem attemptAll_advances_eq_jump {history : History σ} (inRange : history.InRange)
    (count : Nat) :
    history.attemptAll (List.replicate count .advance) =
      history.attempt (.jumpTo (.ok (history.cursor + count))) := by
  rw [attemptAll_advances inRange]
  rfl

theorem attemptAll_retreats_eq_jump {history : History σ} (inRange : history.InRange)
    (count : Nat) :
    history.attemptAll (List.replicate count .retreat) =
      history.attempt (.jumpTo (.ok (history.cursor - count))) := by
  have bound : history.cursor ≤ history.size - 1 := inRange
  have landing : ((history.cursor : Int) - count).toNat = history.cursor - count := by omega
  change _ = ({ history with
    cursor := min ((history.cursor : Int) - count).toNat (history.size - 1) } : History σ)
  rw [attemptAll_retreats, landing, Nat.min_eq_left (by omega)]

/-- What the work of a command may make of a history: only a record that succeeds adds a step, at
the end and without moving the cursor, and a fault changes nothing. -/
structure Extends (history : History σ) (command : Command σ)
    (answered : Except Fault (Option σ)) (next : History σ) : Prop where
  keeps : history.steps <+: next.steps
  size_eq : (∀ step, command ≠ .record step) → next.size = history.size
  records : ∀ step answer, command = .record step → answered = .ok answer →
    ∃ added, step = .ok added ∧ answer = some added ∧
      next = { history with steps := history.steps ++ [added] }
  unchanged : ∀ fault, answered = .error fault → next = history

theorem extends_attempt {history : History σ} (inRange : history.InRange)
    (command : Command σ) :
    history.Extends command (command.work.run history).1 (command.work.run history).2 := by
  rw [Command.run_work]
  refine ⟨?_, ?_, ?_, ?_⟩
  · rcases attempt_cases inRange command with
      ⟨step, -, -, attempted⟩ | ⟨-, attempted⟩ | ⟨-, -, cursor, -, attempted⟩
    · exact attempted ▸ List.prefix_append history.steps [step]
    · exact attempted ▸ List.prefix_rfl
    · exact attempted ▸ List.prefix_rfl
  · intro notRecord
    rcases attempt_cases inRange command with
      ⟨step, isRecord, -, -⟩ | ⟨-, attempted⟩ | ⟨-, -, cursor, -, attempted⟩
    · exact absurd isRecord (notRecord _)
    · rw [attempted]
      rfl
    · rw [attempted]
      rfl
  · rintro step answer rfl answered
    by_cases closed : history.closed = true
    · simp [perform_record_of_closed closed, Except.map] at answered
    · have performed := perform_record_of_open (Bool.eq_false_iff.mpr closed) step
      cases step with
      | error fault => simp [performed, Except.map] at answered
      | ok added =>
          refine ⟨added, rfl, ?_, attempt_of_ok performed⟩
          rw [performed] at answered
          simpa [Except.map, Command.answer] using answered.symm
  · intro fault answered
    cases performed : history.perform command with
    | error other => exact attempt_of_error performed
    | ok next => simp [performed, Except.map] at answered

/-- What holds of a history after commands were given to it since it was empty. -/
structure Logged (commands : List (Command σ)) (history : History σ) : Prop where
  inRange : history.InRange
  steps_eq : history.steps = recorded commands
  current_eq_none_iff : history.current = none ↔ history.steps = []
  current_eq : history.steps ≠ [] →
    ∃ inside : history.cursor < history.steps.length,
      history.current = some history.steps[history.cursor]
  closed_iff : history.closed = true ↔ .close ∈ commands
  refuses : .close ∈ commands → ∀ step,
    (Command.record step).work.run history = (.error .historyClosed, history)
  extends_work : ∀ command : Command σ,
    history.Extends command (command.work.run history).1 (command.work.run history).2
  advances : ∀ count : Nat, history.attemptAll (List.replicate count .advance) =
    history.attempt (.jumpTo (.ok (history.cursor + count)))
  retreats : ∀ count : Nat, history.attemptAll (List.replicate count .retreat) =
    history.attempt (.jumpTo (.ok (history.cursor - count)))

/-- Whatever commands are given to a history since it was empty, it only grows at its end until it
is closed, and its cursor stays on its steps. -/
theorem logged_attemptAll (commands : List (Command σ)) :
    Logged commands (empty.attemptAll commands) := by
  have inRange := inRange_empty.attemptAll commands
  have closedIff : (empty.attemptAll commands).closed = true ↔ .close ∈ commands := by
    rw [closed_attemptAll_iff inRange_empty]
    simp [empty]
  refine ⟨inRange, steps_attemptAll inRange_empty rfl commands, current_eq_none_iff inRange, ?_,
    closedIff, ?_, extends_attempt inRange, attemptAll_advances_eq_jump inRange,
    attemptAll_retreats_eq_jump inRange⟩
  · intro someStep
    have bound : (empty.attemptAll commands).cursor ≤
        (empty.attemptAll commands).steps.length - 1 := inRange
    have inside := Nat.lt_of_le_of_lt bound
      (Nat.sub_lt (List.length_pos_iff.mpr someStep) Nat.one_pos)
    exact ⟨inside, List.getElem?_eq_getElem inside⟩
  · intro closes step
    have failed := perform_record_of_closed (closedIff.mpr closes) step
    rw [Command.run_work, failed, attempt_of_error failed]
    rfl

end SimplexReplay.History
