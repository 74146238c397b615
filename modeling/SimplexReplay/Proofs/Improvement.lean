import SimplexReplay.Proofs.Cycling
import SimplexReplay.Proofs.Endings
import SimplexReplay.Proofs.Exact.Recorded

/-!
# Improvement from step to step

Without a tolerance, a solve of a program whose bounds are not negative records feasible tableaus
only, and the cost never gets worse from one step to the next.  A pivot improves the cost exactly
when the entering column grows.  As the cost depends on the set of basic columns alone, two steps
with the same set have only pivots between them in which no column grows.
-/

namespace SimplexReplay

namespace Objective

variable {m n : Nat} {first second : Tableau Rat m n}

theorem prefers_costValue_iff {objective : Objective} :
    objective.Prefers (second.costValue objective) (first.costValue objective) ↔
      first.objectiveCell ≤ second.objectiveCell := by
  rw [Program.costValue_eq, Program.costValue_eq]
  cases objective <;> simp [Prefers, sign]

theorem improves_costValue_iff {objective : Objective} :
    objective.Improves (second.costValue objective - first.costValue objective) ↔
      first.objectiveCell < second.objectiveCell := by
  rw [Program.costValue_eq, Program.costValue_eq]
  cases objective <;> simp [Improves, sign]

end Objective

namespace Program

variable {program : Program Rat}

def shownCost (program : Program Rat)
    (step : Step Rat program.constraintCount program.columnCount) : Rat :=
  step.tableau.costValue program.objective

/-- The recorded steps are feasible, and their costs only change for the better, by the pivots in
which the entering column grows. -/
structure Improving (program : Program Rat)
    (steps : List (Step Rat program.constraintCount program.columnCount)) : Prop where
  feasible : ∀ step ∈ steps, step.tableau.Feasible
  prefers : ∀ (index : Nat) (step next : Step Rat program.constraintCount program.columnCount),
    steps[index]? = some step → steps[index + 1]? = some next →
      program.objective.Prefers (program.shownCost next) (program.shownCost step)
  improves_iff : ∀ (index : Nat) (step : Step Rat program.constraintCount program.columnCount)
    (exchange : Exchange Rat program.constraintCount program.columnCount),
    steps[index]? = some step → step.event = .pivot exchange →
      exchange.Least ∧ ∃ next, steps[index + 1]? = some next ∧
        (program.objective.Improves (program.shownCost next - program.shownCost step) ↔
          0 < exchange.growth)
  growth_eq_zero : ∀ (first last : Nat)
    (start finish : Step Rat program.constraintCount program.columnCount),
    steps[first]? = some start → steps[last]? = some finish →
      start.point.SameBasis finish.point →
        ∀ (between : Nat) (step : Step Rat program.constraintCount program.columnCount)
          (exchange : Exchange Rat program.constraintCount program.columnCount),
          first ≤ between → between < last → steps[between]? = some step →
            step.event = .pivot exchange → exchange.growth = 0

section Chronicle

variable {rule : PivotRule} {course : Course Rat program.constraintCount program.columnCount}
  {path : Nat → Point Rat program.constraintCount program.columnCount}
  (chronicle : program.Chronicle (program.setting 0 rule) course path)
include chronicle

theorem Chronicle.exists_passage
    (bounds : ∀ constraint ∈ program.constraints, 0 ≤ constraint.bound) :
    ∃ columns, Passage (program.setting 0 rule) program.initialTableau course.pivots path
      columns := by
  have leads : ∀ moment < course.pivots,
      (path moment).Leads (program.setting 0 rule) (path (moment + 1)) :=
    fun moment inside => chronicle.records.leads inside
  have seen : (path 0).SeenFrom program.initialTableau program.slackColumn := by
    rw [chronicle.start_eq]
    exact program.start_seenFrom
  have feasible : (path 0).tableau.Feasible := by
    rw [chronicle.start_eq]
    exact program.start_feasible bounds
  exact SimplexReplay.exists_passage rfl leads seen feasible

theorem improves_iff_of_recorded {index : Nat}
    {step : Step Rat program.constraintCount program.columnCount}
    {exchange : Exchange Rat program.constraintCount program.columnCount}
    (found : course.steps[index]? = some step) (announced : step.event = .pivot exchange) :
    exchange.Least ∧ ∃ next, course.steps[index + 1]? = some next ∧
      (program.objective.Improves (program.shownCost next - program.shownCost step) ↔
        0 < exchange.growth) := by
  obtain ⟨-, -, links⟩ := chronicle.links_of_pivot found announced
  obtain ⟨pointEq, -⟩ := chronicle.point_eq found
  refine ⟨links.least, _, chronicle.getElem?_next_of_pivot found announced, ?_⟩
  have grows := links.objectiveCell_lt_iff (le_refl 0)
  rw [← pointEq] at grows
  exact Objective.improves_costValue_iff.trans grows

variable {columns : Nat → Fin program.constraintCount → Fin program.columnCount}
  (passage : Passage (program.setting 0 rule) program.initialTableau course.pivots path columns)
include passage

theorem prefers_of_recorded {index : Nat}
    {step next : Step Rat program.constraintCount program.columnCount}
    (found : course.steps[index]? = some step)
    (nextFound : course.steps[index + 1]? = some next) :
    program.objective.Prefers (program.shownCost next) (program.shownCost step) := by
  obtain ⟨pointEq, -⟩ := chronicle.point_eq found
  obtain ⟨nextEq, inside⟩ := chronicle.point_eq nextFound
  have halves : index / 2 ≤ (index + 1) / 2 := Nat.div_le_div_right (Nat.le_succ index)
  have cellLe := passage.objectiveCell_le rfl halves inside
  rw [← pointEq, ← nextEq] at cellLe
  exact Objective.prefers_costValue_iff.mpr cellLe

theorem growth_eq_zero_of_recorded {first last : Nat}
    {start finish : Step Rat program.constraintCount program.columnCount}
    (startFound : course.steps[first]? = some start)
    (finishFound : course.steps[last]? = some finish)
    (same : start.point.SameBasis finish.point) {between : Nat} (after : first ≤ between)
    (before : between < last)
    {step : Step Rat program.constraintCount program.columnCount}
    {exchange : Exchange Rat program.constraintCount program.columnCount}
    (found : course.steps[between]? = some step) (announced : step.event = .pivot exchange) :
    exchange.growth = 0 := by
  obtain ⟨startEq, startLe⟩ := chronicle.point_eq startFound
  obtain ⟨finishEq, finishLe⟩ := chronicle.point_eq finishFound
  obtain ⟨betweenEq, inside, links⟩ := chronicle.links_of_pivot found announced
  have startSeen := passage.seen (first / 2) startLe
  have finishSeen := passage.seen (last / 2) finishLe
  have sameSet := same.basicSet_eq (startEq ▸ startSeen.tracks) (finishEq ▸ finishSeen.tracks)
  -- Both ends show the same cost, and no pivot between them makes it worse.
  have ends := Tableau.objectiveCell_eq_of_basicSet_eq (passage.equivalent startLe finishLe)
    startSeen.canonical finishSeen.canonical sameSet
  have earlier := passage.objectiveCell_le rfl (by omega : first / 2 ≤ between / 2)
    (le_of_lt inside)
  have later := passage.objectiveCell_le rfl (by omega : between / 2 + 1 ≤ last / 2) finishLe
  have notPositive : ¬0 < exchange.growth := by
    rw [← links.objectiveCell_lt_iff (le_refl 0), not_lt]
    linarith
  have nonneg := links.growth_nonneg (le_refl 0) (passage.feasible _ (le_of_lt inside))
  exact le_antisymm (not_lt.mp notPositive) nonneg

end Chronicle

/-- A solve without a tolerance from bounds that are not negative only improves from step to
step. -/
theorem exists_improving_of_solve (wellShaped : program.WellShaped)
    (bounds : ∀ constraint ∈ program.constraints, 0 ≤ constraint.bound) (rule : PivotRule)
    (cap : Nat) :
    ∃ course, program.solve 0 rule cap = .ok course ∧ program.Improving course.steps := by
  have solved := solve_eq_ok_iff.mpr ⟨wellShaped, (rfl : program.course 0 rule cap = _)⟩
  obtain ⟨path, chronicle⟩ := exists_chronicle_of_solve (le_refl 0) solved
  obtain ⟨columns, passage⟩ := chronicle.exists_passage bounds
  refine ⟨_, solved, ?_, ?_, ?_, ?_⟩
  · intro step recorded
    obtain ⟨index, found⟩ := List.mem_iff_getElem?.mp recorded
    obtain ⟨pointEq, inside⟩ := chronicle.point_eq found
    have feasibleThen := passage.feasible (index / 2) inside
    rw [← pointEq] at feasibleThen
    exact feasibleThen
  · intro index step next found nextFound
    exact prefers_of_recorded chronicle passage found nextFound
  · intro index step exchange found announced
    exact improves_iff_of_recorded chronicle found announced
  · intro first last start finish startFound finishFound same between step exchange after before
      found announced
    exact growth_eq_zero_of_recorded chronicle passage startFound finishFound same after before
      found announced

/-- The looping program comes back to a basis after six pivots, in which no column grows. -/
theorem improving_looping :
    looping.WellShaped ∧ (∀ constraint ∈ looping.constraints, 0 ≤ constraint.bound) ∧
      ∃ course, looping.solve 0 .bland 7 = .ok course ∧ course.steps.length = 15 ∧
        looping.Improving course.steps ∧
        ∀ between step exchange, 2 ≤ between → between < 14 →
          course.steps[between]? = some step → step.event = .pivot exchange →
            exchange.growth = 0 := by
  have bounds : ∀ constraint ∈ looping.constraints, 0 ≤ constraint.bound := by decide
  obtain ⟨course, solved, improving⟩ :=
    exists_improving_of_solve wellShaped_looping bounds .bland 7
  have courseEq : looping.course 0 .bland 7 = course := (solve_eq_ok_iff.mp solved).2
  have long : course.steps.length = 15 := by
    rw [← courseEq]
    decide +kernel
  have back : (looping.course 0 .bland 7).steps[2]?.map Step.point =
      (looping.course 0 .bland 7).steps[14]?.map Step.point := by
    decide +kernel
  rw [courseEq, List.getElem?_eq_getElem (by omega), List.getElem?_eq_getElem (by omega),
    Option.map_some, Option.map_some, Option.some.injEq] at back
  refine ⟨wellShaped_looping, bounds, course, solved, long, improving, ?_⟩
  intro between step exchange after before found announced
  refine improving.growth_eq_zero 2 14 _ _ (List.getElem?_eq_getElem (by omega))
    (List.getElem?_eq_getElem (by omega)) ?_ between step exchange after before found announced
  intro column
  rw [back]

end Program

end SimplexReplay
