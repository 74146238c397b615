import SimplexReplay.Entry.Basic
import SimplexReplay.Program.Basic
import SimplexReplay.Program.Dual
import SimplexReplay.Tableau.Loose

/-!
# Parts of a view, and reports

An entry is shown as a header line, its table, and a plot of the cost up to it.

A report has a page with the program and its dual, and then a page for every entry of a history.
When a page cannot be made, the report ends with the pages before it.
-/

namespace SimplexReplay

namespace Entry

def costValue (entry : Entry) (objective : Objective) : Except Fault Float :=
  entry.snapshot.costValue objective

def readingTolerance : Float := 1e-10

def table (entry : Entry) (names : Names) : Except Fault String := do
  let ratios ← entry.ratios
  entry.snapshot.table names entry.basisDatum (ratios.ratioText Snapshot.sequenceRatio)
    readingTolerance

/-- The part of a header that shows the pivot element. -/
def elementText (entry : Entry) : Except Fault String :=
  match entry.pivot with
  | none => .ok ""
  | some _ => entry.element.map fun element => " | pivot value " ++ Decimal.shortText element

end Entry

/-- The header of the entry at a signed position.  The position is shown as it is given, counted
from one. -/
def headerAt (objective : Objective) (entries : List Entry) (position : Int) :
    Except Fault String := do
  match signedGet? entries position with
  | none => .error .outOfRange
  | some entry =>
      let description ← entry.description.spell
      let element ← entry.elementText
      let cost ← entry.costValue objective
      return s!"{position + 1}/{entries.length} | " ++ description ++ element ++ " | Z=" ++
        Decimal.shortText cost

/-- A plot of the cost over the first entries of a history: the captions of the plot and of its two
axes, and the value of the cost in each entry. -/
structure Progress where
  captions : List String
  costs : List Float

namespace Progress

def title : String := "Objective Progress"

def positionLabel : String := "Step"

def costLabel : String := "z"

/-- The positions of the points, counted from one. -/
def positions (progress : Progress) : List Float :=
  (List.range progress.costs.length).map fun position => Float.ofNat (position + 1)

/-- The text in the plot: the difference between last and first cost, if there are two points. -/
def texts (progress : Progress) : List String :=
  match progress.costs with
  | first :: second :: rest =>
      ["Delta z: " ++ Decimal.shortText ((second :: rest).getLastD second - first)]
  | _ => []

/-- The progress up to and including the entry at a position. -/
def upTo (objective : Objective) (entries : List Entry) (position : Nat) :
    Except Fault Progress := do
  let costs ← (entries.take (position + 1)).mapM fun entry => entry.costValue objective
  return ⟨[title, positionLabel, costLabel], costs⟩

end Progress

structure View where
  header : String
  table : String
  progress : Progress

/-- A page of a report, with a plot or without. -/
structure Page where
  title : String
  texts : List String
  progress : Option Progress

/-- The finished pages of a report, and the path where it belongs as it was given. -/
structure Report where
  path : Datum
  pages : List Page

namespace Report

def programPage (program : Program Float) : Except Fault Page := do
  let text ← program.textWithDual
  return ⟨"Linear Program and Dual", [text], none⟩

/-- The page of an entry that stands at a position among others. -/
def entryPage (objective : Objective) (names : Names) (entries : List Entry) (entry : Entry)
    (position : Nat) : Except Fault Page := do
  let header ← headerAt objective entries position
  let table ← entry.table names
  let blocks := [header, "", "TABLEAU", table]
  let progress ← Progress.upTo objective entries position
  return ⟨"Tableau Simplex Report", ["\n".intercalate blocks], some progress⟩

/-- The pages before the first one that cannot be made, and why that one cannot. -/
def collect : List (Except Fault Page) → List Page × Option Fault
  | [] => ([], none)
  | .error fault :: _ => ([], some fault)
  | .ok page :: rest =>
      let (pages, fault) := collect rest
      (page :: pages, fault)

/-- The report on a program and the entries of its run, and why it is not complete, if so. -/
def make (program : Program Float) (names : Names) (entries : List Entry)
    (path : Datum) : Report × Option Fault :=
  let entryPages := entries.zipIdx.map fun (entry, position) =>
    entryPage program.objective names entries entry position
  let (pages, fault) := collect (programPage program :: entryPages)
  (⟨path, pages⟩, fault)

end Report

end SimplexReplay
