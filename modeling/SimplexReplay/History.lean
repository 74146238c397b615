import SimplexReplay.Position

/-!
# Step histories

A history is a log that steps are appended to until it is closed, with a cursor that walks over
it.  Moving the cursor changes no step, and recording a step moves no cursor.
-/

namespace SimplexReplay

/-- A log of steps with a cursor at one of them; a closed log takes no more steps. -/
structure History (σ : Type) where
  steps : List σ
  cursor : Nat
  closed : Bool
deriving DecidableEq, Repr

namespace History

variable {σ : Type}

def empty : History σ :=
  ⟨[], 0, false⟩

def ofSteps (steps : List σ) : History σ :=
  ⟨steps, 0, false⟩

def size (history : History σ) : Nat :=
  history.steps.length

def current (history : History σ) : Option σ :=
  history.steps[history.cursor]?

/-- The history with one more step.  A closed history refuses the step before it looks at it. -/
def record (history : History σ) (step : Except Fault σ) : Except Fault (History σ) :=
  if history.closed then .error .historyClosed
  else step.map fun recorded => { history with steps := history.steps ++ [recorded] }

def close (history : History σ) : History σ :=
  { history with closed := true }

/-- The history with the cursor at a position; positions beyond an end are moved to that end. -/
def jumpTo (history : History σ) (position : Int) : History σ :=
  { history with cursor := min position.toNat (history.size - 1) }

/-- The history with the cursor one step further, unless it is at the last step. -/
def advance (history : History σ) : History σ :=
  if history.cursor + 1 < history.size then { history with cursor := history.cursor + 1 }
  else history

/-- The history with the cursor one step back, unless it is at the first step. -/
def retreat (history : History σ) : History σ :=
  { history with cursor := history.cursor - 1 }

def toFirst (history : History σ) : History σ :=
  { history with cursor := 0 }

def toLast (history : History σ) : History σ :=
  { history with cursor := history.size - 1 }

/-- What a history can be told to do.  The step to record, or the position to jump to, may be
missing because it could not be made. -/
inductive Command (σ : Type) where
  | record (step : Except Fault σ)
  | close
  | advance
  | retreat
  | toFirst
  | toLast
  | jumpTo (position : Except Fault Int)

def perform (history : History σ) : Command σ → Except Fault (History σ)
  | .record step => history.record step
  | .close => .ok history.close
  | .advance => .ok history.advance
  | .retreat => .ok history.retreat
  | .toFirst => .ok history.toFirst
  | .toLast => .ok history.toLast
  | .jumpTo position => position.map history.jumpTo

/-- The history after a command that may fail; one that fails changes nothing. -/
def attempt (history : History σ) (command : Command σ) : History σ :=
  match history.perform command with
  | .ok next => next
  | .error _ => history

def attemptAll (history : History σ) (commands : List (Command σ)) : History σ :=
  commands.foldl attempt history

def get (history : History σ) (position : Int) : Except Fault σ :=
  match signedGet? history.steps position with
  | some step => .ok step
  | none => .error .outOfRange

def slice (history : History σ) (stretch : Stretch) : Except Fault (List σ) :=
  stretch.pick history.steps

/-- Why the tableau of the step at a position cannot be written to. -/
def writeFault (history : History σ) (position : Int) : Fault :=
  match history.get position with
  | .ok _ => .readOnly
  | .error fault => fault

/-- Why a field of the step at a position cannot be assigned. -/
def assignFault (history : History σ) (position : Int) : Fault :=
  match history.get position with
  | .ok _ => .frozenField
  | .error fault => fault

end History

end SimplexReplay
