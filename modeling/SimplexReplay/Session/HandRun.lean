import SimplexReplay.Session.Solve

/-!
# Runs that are started by hand

A run can be started on any array with any basis and any names.  On an array that holds no tableau
it can find that nothing is left to improve, but it makes no pivot.  Such a run may have no end, so
it is told pivot by pivot.
-/

namespace SimplexReplay

/-- What came of a run that was started by hand, with array and basis at its end. -/
structure HandRun where
  pivots : Nat
  ending : Ending
  snapshot : Snapshot
  basis : List Int
  entries : List Entry

/-- A run that is told pivot by pivot: the next pivot is only made when the steps before it have
been told, so that a run without an end still ends at a step without a table. -/
def runTold {m n : Nat} (setting : Setting Float) :
    (allowed made : Nat) → Point Float m n → String × Course Float m n
  | 0, made, point => (run setting 0 made point).tell setting
  | allowed + 1, made, point =>
      let (printed, first) := (run setting 1 made point).tell setting
      match first.ending with
      | .capped =>
          let (more, course) := runTold setting allowed (made + 1) first.last
          (printed ++ more, { course with steps := first.steps ++ course.steps })
      | .reached _ | .broken _ => (printed, first)

/-- How a run on an array that holds no tableau ends. -/
def Snapshot.ending (snapshot : Snapshot) (tolerance : Float) : Ending :=
  match snapshot.tensor.canImprove tolerance with
  | .ok false => .reached .optimal
  | .ok true => .broken .outOfRange
  | .error fault => .broken fault

namespace Session

/-- Makes a run from a point, and tells it pivot by pivot if asked to. -/
def runFrom {m n : Nat} (isTold : Bool) (setting : Setting Float) (allowed : Nat)
    (point : Point Float m n) : Session (Course Float m n) := do
  if isTold then
    let (printed, course) := runTold setting allowed 0 point
    print printed
    return course
  else
    return run setting allowed 0 point

def runByHand (isTold : Bool) (setting : Setting Float) (allowed : Nat) (snapshot : Snapshot)
    (basis : List Int) : Session HandRun :=
  match Snapshot.tableau? snapshot with
  | none => return ⟨0, Snapshot.ending snapshot setting.tolerance, snapshot, basis, []⟩
  | some ⟨_, _, tableau⟩ => do
      let course ← runFrom isTold setting allowed ⟨tableau, basis⟩
      return {
        pivots := course.pivots
        ending := course.ending
        snapshot := .ofTableau course.last.tableau
        basis := course.last.basis
        entries := course.steps.map (Step.entryNamed setting.names) }

end Session

end SimplexReplay
