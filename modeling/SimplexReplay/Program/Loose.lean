import SimplexReplay.Datum
import SimplexReplay.Program.Basic

/-!
# Programs from loosely typed values

The parts of a program are checked in a fixed order, so that a program with several faults is
refused for the first one: the numbers of entries, then each constraint with its coefficients, its
bound and its relation, and at the end the objective and the costs.

There are example programs, each of which shows another way in which a run can go; a value names
one by its key.
-/

namespace SimplexReplay

namespace Program

def readObjective (value : Datum) : Except Fault Objective :=
  match value with
  | .text word =>
      match Objective.ofWord? word with
      | some objective => .ok objective
      | none => .error .unknownObjective
  | _ => .error .unknownObjective

def readRelation (value : Datum) : Except Fault Relation :=
  match value with
  | .text sign =>
      match Relation.ofSign? sign with
      | some relation => .ok relation
      | none => .error .unknownSense
  | _ => .error .unknownSense

def readConstraint (coefficients sense bound : Datum) : Except Fault (Constraint Float) := do
  let entries ← coefficients.members
  let numbers ← entries.mapM Datum.toFloat
  let limit ← bound.toFloat
  let relation ← readRelation sense
  return ⟨numbers, relation, limit⟩

/-- A program from an objective, costs and finished constraints. -/
def readParts (objective costs : Datum) (constraints : List (Constraint Float)) :
    Except Fault (Program Float) := do
  let direction ← readObjective objective
  let entries ← costs.members
  let numbers ← entries.mapM Datum.toFloat
  return ⟨direction, numbers, constraints⟩

/-- A constraint from a triple of coefficients, relation and bound. -/
def readTriple (value : Datum) : Except Fault (Constraint Float) := do
  match ← value.members with
  | [coefficients, sense, bound] => readConstraint coefficients sense bound
  | _ => .error .wrongType

def readTriples (value : Datum) : Except Fault (List (Constraint Float)) := do
  let triples ← value.members
  triples.mapM readTriple

/-- A program from costs, triples and objective. -/
def ofTriples (costs triples objective : Datum) : Except Fault (Program Float) := do
  let constraints ← readTriples triples
  readParts objective costs constraints

/-- The relations of a matrix program: upper bounds throughout if none are given. -/
def readSenses (bounds : List Datum) (senses : Option Datum) : Except Fault (List Datum) :=
  match senses with
  | none | some .null => .ok (bounds.map fun _ => .text Relation.atMost.sign)
  | some value => value.members

/-- A program from costs, matrix, right-hand sides, relations and objective. -/
def ofArrays (costs matrix bounds : Datum) (senses : Option Datum) (objective : Datum) :
    Except Fault (Program Float) := do
  let limits ← bounds.members
  let rows ← matrix.members
  if rows.length ≠ limits.length then
    throw .unequalLengths
  let signs ← readSenses limits senses
  if signs.length ≠ limits.length then
    throw .unequalLengths
  let constraints ← (rows.zip (signs.zip limits)).mapM fun (row, sign, limit) =>
    readConstraint row sign limit
  let _ ← costs.members
  readParts objective costs constraints

def changeableFields : List String := ["objective", "c", "constraints"]

/-- The program with some of its fields replaced.  New constraints are read first, then the names
of the fields are checked, then objective and costs are read. -/
def withChanges (program : Program Float) (changes : Fields) :
    Except Fault (Program Float) := do
  let constraints ←
    match Datum.field? "constraints" changes with
    | some triples => readTriples triples
    | none => pure program.constraints
  if changes.any fun change => !changeableFields.contains change.1 then
    throw .wrongType
  let objective := (Datum.field? "objective" changes).getD (.text program.objective.word)
  match Datum.field? "c" changes with
  | some costs => readParts objective costs constraints
  | none => return { objective := ← readObjective objective, costs := program.costs, constraints }

end Program

structure Example where
  key : String
  title : String
  program : Program Float

def upperBound (coefficients : List Float) (bound : Float) : Constraint Float :=
  ⟨coefficients, .atMost, bound⟩

namespace Example

def textbook : Example where
  key := "textbook"
  title := "Textbook 2D LP"
  program := ⟨.maximize, [3, 2], [upperBound [1, 1] 4, upperBound [1, 3] 6]⟩

/-- A production plan that is found by three pivots under Bland's rule. -/
def production : Example where
  key := "production"
  title := "Production Mix (3 pivots)"
  program :=
    ⟨.maximize, [3, 5], [upperBound [1, 0] 4, upperBound [0, 2] 12, upperBound [3, 2] 18]⟩

def unbounded : Example where
  key := "unbounded"
  title := "Unbounded Direction"
  program := ⟨.maximize, [1, 0], [upperBound [1, -1] 1]⟩

def cost : Example where
  key := "cost"
  title := "Cost Reduction (min)"
  program :=
    ⟨.minimize, [-2, -3, 1],
      [upperBound [1, 1, 1] 10, upperBound [2, 1, 0] 12, upperBound [0, 1, 3] 9]⟩

def all : List Example := [textbook, production, unbounded, cost]

def ofKey (key : String) : Except Fault Example :=
  match all.find? fun candidate => candidate.key = key with
  | some found => .ok found
  | none => .error .unknownExample

def read : Datum → Except Fault Example
  | .text key => ofKey key
  | .null | .truth _ | .whole _ | .real _ => .error .unknownExample
  | .list _ | .record _ => .error .wrongType

def detail (shown : Example) : String :=
  shown.program.objective.word ++ s!", {shown.program.variableCount} vars x " ++
    s!"{shown.program.constraintCount} constraints"

end Example

end SimplexReplay
