import SimplexReplay.Display.View
import SimplexReplay.Display.Viewer
import SimplexReplay.Options
import SimplexReplay.Run.Solve
import SimplexReplay.Tableau.Basic

/-!
# Solving in a session

A solve checks the options before the program, tells the run if asked to, and closes the history.
Then the report is written and the viewer is opened, if they are switched on.

A session reads lines and prints text, gives notices, writes reports and shows views.  All of this
is kept in a journal, also of a session that is stopped by a fault.
-/

namespace SimplexReplay

/-- What happened in a session, and the lines that are still to be read. -/
structure Journal where
  lines : List String
  notices : List String
  printed : String
  reports : List Report
  shown : List View

namespace Journal

def ofLines (lines : List String) : Journal :=
  ⟨lines, [], "", [], []⟩

end Journal

abbrev Session := ExceptT Fault (StateM Journal)

namespace Session

def print (text : String) : Session Unit :=
  modify fun journal => { journal with printed := journal.printed ++ text }

def printLine (line : String) : Session Unit :=
  print (line ++ "\n")

def giveNotices (notices : List String) : Session Unit :=
  modify fun journal => { journal with notices := journal.notices ++ notices }

def ofResult {α : Type} (result : Except Fault α) : Session α :=
  ExceptT.mk (pure result)

/-- Builds the initial tableau of a program, with a notice about every relation that it does not
keep. -/
def buildTableau (program : Program Float) :
    Session (Tableau Float program.constraintCount program.columnCount) := do
  let tableau ← ofResult program.tableau
  giveNotices program.relaxationNotices
  return tableau

/-- Writes a report; the pages before a fault are kept. -/
def writeReport (program : Program Float) (names : Names) (entries : List Entry)
    (path : Datum) : Session Unit := do
  let (report, fault) := Report.make program names entries path
  modify fun journal => { journal with reports := journal.reports ++ [report] }
  match fault with
  | none => return
  | some reason => throw reason

/-- Opens a viewer, and shows its view if asked to. -/
def openViewer (program : Program Float) (names : Names) (history : History Entry)
    (isShown : Bool) : Session Viewer := do
  let viewer ← ofResult (Viewer.start program.objective names history)
  if isShown then
    modify fun journal => { journal with shown := journal.shown ++ [viewer.view] }
  return viewer

end Session

/-- A program that was solved, with tableau and basis at the end of the run. -/
structure Solved (m n : Nat) where
  status : Status
  solution : Option (Solution Float)
  last : Point Float m n
  pivots : Nat
  names : List String
  history : History Entry

namespace Session

variable {m n : Nat}

def tell (isTold : Bool) (setting : Setting Float) (course : Course Float m n) :
    Session (Course Float m n) := do
  if isTold then
    let (printed, told) := course.tell setting
    print printed
    return told
  else
    return course

def solve (program : Program Float) (fields : Fields) :
    Session (Solved program.constraintCount program.columnCount) := do
  let options ← ofResult (Options.read (some program) fields)
  let cap := options.cap.getD 0
  let silent ← ofResult (program.solve options.tolerance options.rule cap)
  giveNotices program.relaxationNotices
  let setting := program.setting options.tolerance options.rule
  let course ← tell options.verbose.isOn setting silent
  let status ← ofResult (course.ending.status (.ofNat cap))
  let history := (History.ofSteps (course.steps.map Step.entry)).close
  if let some path := options.reportPath then
    writeReport program setting.names history.steps (.text path)
  if options.launchViewer.isOn then
    let _ ← openViewer program setting.names history true
  return {
    status, history
    solution := course.solution?
    last := course.last
    pivots := course.pivots
    names := program.columnNames }

end Session

end SimplexReplay
