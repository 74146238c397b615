import SimplexReplay.Entry.Basic
import SimplexReplay.Program.Basic
import SimplexReplay.Run.Course
import SimplexReplay.Table
import SimplexReplay.Tableau.Basic

/-!
# The run that solves a program

A program is solved by a run that starts at its initial tableau with the slacks as basis.  The
recorded course has the start before the steps of the run and the solution after them.

A run can be told while it is made: for every step its description is printed, then its table and
an empty line.  A step whose table cannot be made is the last step of the run.
-/

namespace SimplexReplay

namespace Program

variable {α : Type} [Scalar α]

def start (program : Program α) : Point α program.constraintCount program.columnCount :=
  ⟨program.initialTableau, program.slackBasis⟩

def setting (program : Program α) (tolerance : α) (rule : PivotRule) : Setting α :=
  ⟨tolerance, rule, .ofTexts program.columnNames⟩

def solutionOf (program : Program α)
    (course : Course α program.constraintCount program.columnCount) :
    Except Fault (Solution α) :=
  course.last.tableau.solution program.variableCount program.objective course.last.basis

/-- A course with the solution recorded, if it has reached one. -/
def recordSolution (program : Program α)
    (course : Course α program.constraintCount program.columnCount) :
    Course α program.constraintCount program.columnCount :=
  match course.ending with
  | .reached .optimal =>
      match program.solutionOf course with
      | .ok solution =>
          { course with
            steps := course.steps ++ [course.last.step course.pivots (.optimal solution)] }
      | .error fault => { course with ending := .broken fault }
  | .reached .unbounded | .capped | .broken _ => course

def course (program : Program α) (tolerance : α) (rule : PivotRule) (cap : Nat) :
    Course α program.constraintCount program.columnCount :=
  let whole := program.recordSolution
    (run (program.setting tolerance rule) cap 0 program.start)
  { whole with steps := program.start.step 0 .initial :: whole.steps }

/-- The course of the run of a well-shaped program under a cap. -/
def solve (program : Program α) (tolerance : α) (rule : PivotRule) (cap : Nat) :
    Except Fault (Course α program.constraintCount program.columnCount) := do
  program.checkShape
  return program.course tolerance rule cap

end Program

/-- The solution that the last step of a course records. -/
def Course.solution? {α : Type} {m n : Nat} (course : Course α m n) : Option (Solution α) :=
  match course.steps.getLast? with
  | some ⟨_, _, _, .optimal solution⟩ => some solution
  | _ => none

variable {m n : Nat}

/-- The table of a step with its tracked basis. -/
def Step.table (step : Step Float m n) (setting : Setting Float) : Except Fault String :=
  step.tableau.table setting.names (some step.basis) (step.event.ratios.map shownRatio)
    setting.tolerance

/-- What was told of a sequence of steps: the steps up to the first one without a table, the printed
text, and that step with the reason, if there is one. -/
structure Telling (m n : Nat) where
  steps : List (Step Float m n)
  printed : String
  broken : Option (Step Float m n × Fault)

namespace Telling

def ofSteps (setting : Setting Float) : List (Step Float m n) → Telling m n
  | [] => ⟨[], "", none⟩
  | step :: rest =>
      match step.table setting with
      | .error fault => ⟨[step], step.description ++ "\n", some (step, fault)⟩
      | .ok table =>
          let telling := ofSteps setting rest
          ⟨step :: telling.steps,
            step.description ++ "\n" ++ table ++ "\n\n" ++ telling.printed, telling.broken⟩

end Telling

/-- The text that is printed when a course is told, and the course as far as it is told. -/
def Course.tell (course : Course Float m n) (setting : Setting Float) :
    String × Course Float m n :=
  let telling := Telling.ofSteps setting course.steps
  match telling.broken with
  | none => (telling.printed, course)
  | some (step, fault) =>
      (telling.printed,
        { course with
          steps := telling.steps
          last := ⟨step.tableau, step.basis⟩
          ending := .broken fault })

end SimplexReplay
