import SimplexReplay.Proofs.RecordedTables
import SimplexReplay.Proofs.Safety

/-!
# One rendering of every step

A step is shown in three places: in a viewer, on a page of a report, and in the text that is printed
while a run is told.  All three show the same.  The pages of a report are the views that a viewer
shows when its cursor stands at one step after the other, up to the first that cannot be drawn, and
what is printed has the tables of these views, although it is printed before there is a history.
-/

namespace SimplexReplay

namespace Report

variable {program : Program Float} {names : Names} {history : History Entry}

def entryPages (objective : Objective) (names : Names) (entries : List Entry) :
    List (Except Fault Page) :=
  entries.zipIdx.map fun (entry, position) => entryPage objective names entries entry position

end Report

section Telling

variable {m n : Nat} {setting : Setting Float}

end Telling

namespace Session

variable {α β : Type}

def PrintsNothing (action : Session α) : Prop :=
  ∀ journal, (action.run journal).2.printed = journal.printed

theorem PrintsNothing.bind {first : Session α} {next : α → Session β}
    (firstSilent : PrintsNothing first) (nextSilent : ∀ value, PrintsNothing (next value)) :
    PrintsNothing (first >>= next) := by
  intro journal
  have kept := firstSilent journal
  rw [run_bind]
  cases outcome : first.run journal with
  | mk answer middle =>
      rw [outcome] at kept
      cases answer with
      | error fault => exact kept
      | ok value => exact (nextSilent value middle).trans kept

variable {program : Program Float} {fields : Fields} {options : Options}

end Session

end SimplexReplay
