import SimplexReplay.Program.Loose
import SimplexReplay.Session.Dialogue
import SimplexReplay.Session.Solve

/-!
# Guided sessions

The showcase lets a user choose an example and a pivot rule and solves it.  Two more sessions need
no input: one tells a run step by step, the other writes a report and opens a viewer.
-/

namespace SimplexReplay

def vectorText (values : List Float) : String :=
  match values with
  | [value] => "(" ++ Decimal.fullText value ++ ",)"
  | _ => "(" ++ ", ".intercalate (values.map Decimal.fullText) ++ ")"

def valuesText (solution : Option (Solution Float)) : String :=
  match solution with
  | some found => vectorText found.values
  | none => "None"

def costText (solution : Option (Solution Float)) : String :=
  match solution with
  | some found => Decimal.fullText found.cost
  | none => "None"

namespace Showcase

def exampleMenu : Menu where
  heading := "Choose a linear program:"
  options := Example.all.map fun shown =>
    ⟨shown.key, shown.title, shown.detail, [shown.key, Text.lower shown.title]⟩
  defaultKey := "textbook"

def ruleMenu : Menu where
  heading := "Choose entering rule:"
  options :=
    [⟨"bland", "Bland (lowest index)", "", ["bland", "b"]⟩,
      ⟨"dantzig", "Dantzig (most negative)", "", ["dantzig", "d"]⟩]
  defaultKey := "bland"

def viewerQuestion : String := "Open the step viewer?"

def greeting : String :=
  "Tableau Simplex Showcase\n" ++
  "------------------------\n" ++
  "Tip: choose with number keys. Press Enter to accept defaults. Type q to quit.\n"

end Showcase

namespace Session

def converse {α : Type} (dialogue : List String → Reply α) : Session α := do
  let journal ← get
  let reply := dialogue journal.lines
  set { journal with lines := reply.rest, printed := journal.printed ++ reply.printed }
  ofResult reply.answer

structure Wish where
  key : String
  rule : String
  launchViewer : Bool

def askWish : Session Wish := do
  let key ← converse Showcase.exampleMenu.pick
  let rule ← converse Showcase.ruleMenu.pick
  let launchViewer ← converse (Confirmation.confirm Showcase.viewerQuestion)
  return ⟨key, rule, launchViewer⟩

/-- Asks what to show; a user who leaves gets nothing. -/
def askWish? : Session (Option Wish) :=
  tryCatch (askWish.map some) fun fault => do
    if fault = .cancelled then
      printLine "\nCancelled."
      return none
    else
      throw fault

/-- A solved program without the sizes in its type. -/
structure Result where
  rowCount : Nat
  columnCount : Nat
  solved : Solved rowCount columnCount

def printEnding {m n : Nat} (solved : Solved m n) : Session Unit := do
  printLine "\nDone."
  printLine ("status = " ++ solved.status.word)
  if solved.status = .optimal then
    printLine ("x* = " ++ valuesText solved.solution)
    printLine ("z* = " ++ costText solved.solution)
  printLine s!"states = {solved.history.size}"

/-- Solves the example that a user wishes to see. -/
def fulfil (wish : Wish) : Session Result := do
  let shown ← ofResult (Example.ofKey wish.key)
  printLine ("\nRunning: " ++ shown.title)
  let text ← ofResult shown.program.textWithDual
  printLine text
  printLine ""
  let solved ← solve shown.program
    [(Options.viewerName, .truth wish.launchViewer), (Options.ruleName, .text wish.rule),
      (Options.reportName, .null)]
  printEnding solved
  return ⟨_, _, solved⟩

/-- Holds the showcase; a user who leaves gets no result. -/
def showcase : Session (Option Result) := do
  print Showcase.greeting
  match ← askWish? with
  | none => return none
  | some wish => return some (← fulfil wish)

/-- Solves the production example and tells the run step by step. -/
def demonstrate : Session Unit := do
  let solved ← solve Example.production.program [(Options.verboseName, .truth true)]
  printLine ("x* = " ++ valuesText solved.solution ++ " z* = " ++ costText solved.solution)

def sampleProgram : Program Float :=
  ⟨.maximize, [5, 4], [upperBound [2, 1] 10, upperBound [1, 3] 15]⟩

/-- Solves a program with a report and a viewer. -/
def present : Session Unit := do
  let solved ← solve sampleProgram
    [(Options.viewerName, .truth true), (Options.reportName, .text Options.defaultReport)]
  printLine (solved.status.word ++ " " ++ valuesText solved.solution ++ " " ++
    costText solved.solution ++ s!" states: {solved.history.size}")
  let text ← ofResult sampleProgram.textWithDual
  printLine text

end Session

end SimplexReplay
