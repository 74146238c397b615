import SimplexReplay.Datum
import SimplexReplay.Nested
import SimplexReplay.Run.Step
import SimplexReplay.Spelling
import SimplexReplay.Tableau.Basic

/-!
# Entries of a history

An entry is what a history keeps of a step in the form in which it is shown: a snapshot, texts and
named notes.  A snapshot is a nested sequence of doubles that is an array; what shows a tableau asks
for an array with two axes.

Every step of a run has its entry; entries can also be recorded by hand, and then array and basis
need not fit together.
-/

namespace SimplexReplay

abbrev Snapshot := Nested Float

namespace Snapshot

mutual

def read : Datum → Except Fault Snapshot
  | .list items => do
      let members ← readAll items
      return .parts members
  | value => do
      let number ← value.toFloat
      return .cell number

def readAll : List Datum → Except Fault (List Snapshot)
  | [] => .ok []
  | item :: rest => do
      let member ← read item
      let members ← readAll rest
      return member :: members

end

def readArray (value : Datum) : Except Fault Snapshot := do
  let snapshot ← read value
  snapshot.checkArray
  return snapshot

mutual

def datum : Snapshot → Datum
  | .cell value => .real value
  | .parts members => .list (data members)

def data : List Snapshot → List Datum
  | [] => []
  | member :: rest => datum member :: data rest

end

/-- The tableau that an array with two axes and with entries in its rows holds. -/
def tableau? (snapshot : Snapshot) : Option (SizedTableau Float) :=
  if snapshot.rank < 2 then none
  else
    match snapshot.rows? with
    | none => none
    | some rows => (SizedTableau.ofLists rows).toOption

def ofTableau {m n : Nat} (tableau : Tableau Float m n) : Snapshot :=
  .ofRows tableau.toLists

end Snapshot

/-- A step as a history keeps it.  Description, kind and iteration can be any value; row and column
are kept if the step belongs to a pivot, and the basis if it was tracked. -/
structure Entry where
  snapshot : Snapshot
  description : Datum
  kind : Datum
  pivot : Option (List Datum)
  iteration : Datum
  notes : Fields
  basis : Option (List Int)

namespace Entry

def ratiosNote : String := "ratios"

def elementNote : String := "pivot_value"

def ratios (entry : Entry) : Except Fault Snapshot :=
  match Datum.field? ratiosNote entry.notes with
  | some note => Snapshot.read note
  | none => .ok (.parts [])

def basisDatum (entry : Entry) : Datum :=
  match entry.basis with
  | some columns => .list (columns.map .whole)
  | none => .null

/-- The pivot element of an entry; it is undefined if none was recorded. -/
def element (entry : Entry) : Except Fault Float :=
  match Datum.field? elementNote entry.notes with
  | some (.real value) => .ok value
  | some _ => .error .wrongType
  | none => .ok (0.0 / 0.0)

end Entry

/-- A ratio as it is shown: a row without one counts as unlimited. -/
def shownRatio (ratio : Option Float) : Float :=
  ratio.getD (1.0 / 0.0)

def ratiosNote (ratios : List (Option Float)) : Datum :=
  .list (ratios.map fun ratio => .real (shownRatio ratio))

namespace Event

variable {m n : Nat}

/-- The notes of an event; `name` gives the name of a column from its position and its text. -/
def notesBy (name : Int → String → Datum) : Event Float m n → Fields
  | initial => []
  | pivot exchange =>
      [("entering", name exchange.column.val exchange.entering),
        ("leaving", name exchange.basic exchange.leaving),
        (Entry.ratiosNote, SimplexReplay.ratiosNote exchange.ratios.toList),
        (Entry.elementNote, .real exchange.element),
        ("reduced_cost", .real exchange.reducedCost)]
  | afterPivot exchange =>
      [("entering", name exchange.column.val exchange.entering),
        ("leaving", name exchange.basic exchange.leaving)]
  | unbounded column entering ratios =>
      [("entering", name column.val entering),
        (Entry.ratiosNote, SimplexReplay.ratiosNote ratios.toList)]
  | optimal solution =>
      [("x", .list (solution.values.map .real)), ("z", .real solution.cost)]

def notes (event : Event Float m n) : Fields :=
  event.notesBy fun _ text => .text text

/-- Row and column of the pivot that an event announces; the row is counted with the objective
row. -/
def place : Event Float m n → Option (List Datum)
  | pivot exchange => some [.whole (exchange.row.val + 1), .whole exchange.column.val]
  | initial | afterPivot _ | unbounded _ _ _ | optimal _ => none

end Event

def Step.entryWith {m n : Nat} (step : Step Float m n) (notes : Fields) : Entry where
  snapshot := .ofTableau step.tableau
  description := .text step.description
  kind := .text step.event.kind
  pivot := step.event.place
  iteration := .whole step.iteration
  notes := notes
  basis := some step.basis

def Step.entry {m n : Nat} (step : Step Float m n) : Entry :=
  step.entryWith step.event.notes

/-- The name that was given for a column, or its text if none was. -/
def Names.given (names : Names) (position : Int) (text : String) : Datum :=
  (names.nameAt position).toOption.getD (.text text)

def Step.entryNamed {m n : Nat} (names : Names) (step : Step Float m n) : Entry :=
  step.entryWith (step.event.notesBy names.given)

end SimplexReplay
