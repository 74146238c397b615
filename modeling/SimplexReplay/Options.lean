import SimplexReplay.Program.Basic
import SimplexReplay.Spelling
import SimplexReplay.Tableau.Pivot
import SimplexReplay.Text.Characters
import SimplexReplay.Text.LowerCase

/-!
# Options of a solve

Options arrive as named values.  They are checked in a fixed order, so that options with several
faults are refused for the first one; a missing option has a default.  Options that are not known
are kept as they came.
-/

namespace SimplexReplay

/-- The options of a solve.  The cap is missing if no program was given that it could follow from;
each value of a switch that is on counts. -/
structure Options where
  tolerance : Float
  rule : PivotRule
  cap : Option Nat
  verbose : Datum
  launchViewer : Datum
  reportPath : Option String

namespace Options

def toleranceName : String := "tol"

def ruleName : String := "pivot_rule"

def capName : String := "max_iter"

def verboseName : String := "verbose"

def viewerName : String := "launch_viewer"

def reportName : String := "report_pdf_path"

def defaultTolerance : Float := 1e-10

def defaultReport : String := "simplex_report.pdf"

/-- The tolerance that a value stands for.  An integer is tested for its width before anything else
is asked about it. -/
def readTolerance : Option Datum → Except Fault Float
  | none => .ok defaultTolerance
  | some (.whole value) =>
      if !Datum.isWord value then .error .oversizedTolerance
      else if value < 0 then .error .badTolerance
      else (Datum.whole value).toFloat
  | some (.real value) =>
      if !value.isFinite || value < 0.0 then .error .badTolerance else .ok value
  | some _ => .error .badTolerance

/-- The pivot rule that the spelling of a value names; blanks around it and its case do not
matter. -/
def readRule : Option Datum → Except Fault PivotRule
  | none => .ok .bland
  | some value => do
      let name ← value.spell
      match PivotRule.ofName? (Text.lower (Text.strip name)) with
      | some rule => return rule
      | none => throw .badPivotRule

/-- The cap for a program if none is given: ten pivots for every column. -/
def defaultCap (program : Program Float) : Nat :=
  10 * program.columnCount

def readCap (program : Option (Program Float)) : Option Datum → Except Fault (Option Nat)
  | none | some .null => .ok (program.map defaultCap)
  | some (.whole value) => if value < 0 then .error .badIterationCap else .ok (some value.toNat)
  | some _ => .error .badIterationCap

def readReport : Option Datum → Except Fault (Option String)
  | none | some .null | some (.truth false) => .ok none
  | some (.truth true) => .ok (some defaultReport)
  | some (.text path) =>
      let stripped := Text.strip path
      if stripped.isEmpty then .error .badReportPath else .ok (some stripped)
  | some _ => .error .badReportPath

def read (program : Option (Program Float)) (fields : Fields) : Except Fault Options := do
  let tolerance ← readTolerance (Datum.field? toleranceName fields)
  let rule ← readRule (Datum.field? ruleName fields)
  let cap ← readCap program (Datum.field? capName fields)
  let reportPath ← readReport (Datum.field? reportName fields)
  return {
    tolerance, rule, cap, reportPath
    verbose := (Datum.field? verboseName fields).getD (.truth false)
    launchViewer := (Datum.field? viewerName fields).getD (.truth false) }

def capDatum : Option Nat → Datum
  | none => .null
  | some cap => .whole cap

def pathDatum : Option String → Datum
  | none => .null
  | some path => .text path

def write (options : Options) (fields : Fields) : Fields :=
  Datum.putField reportName (pathDatum options.reportPath) <|
  Datum.putField viewerName options.launchViewer <|
  Datum.putField verboseName options.verbose <|
  Datum.putField capName (capDatum options.cap) <|
  Datum.putField ruleName (.text options.rule.name) <|
  Datum.putField toleranceName (.real options.tolerance) fields

/-- The fields with every option checked, completed and put into its standard form. -/
def normalize (program : Option (Program Float)) (fields : Fields) : Except Fault Fields := do
  let options ← read program fields
  return options.write fields

end Options

end SimplexReplay
