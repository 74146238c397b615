import SimplexReplay.Decimal.Layout
import SimplexReplay.Program.Basic

/-!
# The text of a program, and its dual

A linear expression lists the terms with a coefficient other than zero.  The first term carries
its sign directly, every later one has its sign between blanks, and a coefficient of size one is
not written.

The dual exchanges costs and bounds and transposes the coefficients.  Its relation and the sign of
its variables follow from the objective alone: the rule is that of a maximum under upper bounds or
a minimum under lower bounds.
-/

namespace SimplexReplay

def termText (isFirst : Bool) (coefficient : Float) (name : String) : String :=
  let sign := if coefficient < 0.0 then "-" else if isFirst then "" else "+"
  let size := coefficient.abs
  let sizeText := if size == 1.0 then "" else Decimal.shortText size
  if isFirst then sign ++ sizeText ++ name else " " ++ sign ++ " " ++ sizeText ++ name

/-- The terms from the given position on; an expression without terms is zero. -/
def termsFrom (letter : String) (isFirst : Bool) : (position : Nat) → List Float → String
  | _, [] => if isFirst then "0" else ""
  | position, coefficient :: rest =>
      if coefficient == 0.0 then
        termsFrom letter isFirst (position + 1) rest
      else
        termText isFirst coefficient (letter ++ toString position) ++
          termsFrom letter false (position + 1) rest

/-- The text of a linear expression in variables that share a letter and are numbered from one. -/
def expressionText (coefficients : List Float) (letter : String) : String :=
  termsFrom letter true 1 coefficients

def Constraint.text (constraint : Constraint Float) (letter : String) : String :=
  "    " ++ expressionText constraint.coefficients letter ++ " " ++ constraint.relation.sign ++
    " " ++ Decimal.shortText constraint.bound

namespace Program

def textLines (program : Program Float) (letter sign : String) : List String :=
  [program.objective.word ++ " z = " ++ expressionText program.costs letter, "s.t."] ++
    program.constraints.map (fun constraint => constraint.text letter) ++
    ["    " ++ ", ".intercalate (numberedNames letter program.variableCount) ++ " " ++ sign]

def text (program : Program Float) (letter sign : String) : String :=
  "\n".intercalate (program.textLines letter sign)

/-- The text of a program in variables `x` that are not negative. -/
def standardText (program : Program Float) : String :=
  program.text "x" ">= 0"

variable {α : Type}

/-- The relation of the constraints of the dual of a program with this objective. -/
def dualRelation : Objective → Relation
  | .maximize => .atLeast
  | .minimize => .atMost

/-- The coefficients that the constraints give to the variable at a position. -/
def coefficientColumn [Zero α] (program : Program α) (position : Nat) : List α :=
  program.constraints.map fun constraint => constraint.coefficients.getD position 0

/-- The dual of a program, transposed entry by entry. -/
def transposed [Zero α] (program : Program α) : Program α where
  objective := program.objective.opposite
  costs := program.constraints.map (·.bound)
  constraints := program.costs.zipIdx.map fun (cost, position) =>
    ⟨program.coefficientColumn position, dualRelation program.objective, cost⟩

def dual [Zero α] (program : Program α) : Except Fault (Program α) := do
  program.checkShape
  return program.transposed

def dualSign (program : Program α) : String :=
  match program.objective with
  | .maximize => ">= 0"
  | .minimize => "<= 0"

/-- A program and its dual, one below the other. -/
def textWithDual (program : Program Float) : Except Fault String := do
  let dual ← program.dual
  return "\n".intercalate
    ["PRIMAL", program.standardText, "", "DUAL", dual.text "y" program.dualSign]

end Program

/-- Whether two scalars are equal or both undefined. -/
def sameScalar {α : Type} [Scalar α] (first second : α) : Bool :=
  first == second || (Scalar.isNaN first && Scalar.isNaN second)

def sameScalars {α : Type} [Scalar α] (first second : List α) : Bool :=
  first.length == second.length &&
    (first.zip second).all fun entries => sameScalar entries.1 entries.2

def Constraint.agreesWith {α : Type} [Scalar α] (first second : Constraint α) : Bool :=
  sameScalars first.coefficients second.coefficients && first.relation == second.relation &&
    sameScalar first.bound second.bound

/-- Whether two programs agree entry by entry, an undefined entry agreeing with itself. -/
def Program.agreesWith {α : Type} [Scalar α] (first second : Program α) : Bool :=
  first.objective == second.objective && sameScalars first.costs second.costs &&
    first.constraints.length == second.constraints.length &&
    (first.constraints.zip second.constraints).all fun constraints =>
      constraints.1.agreesWith constraints.2

end SimplexReplay
