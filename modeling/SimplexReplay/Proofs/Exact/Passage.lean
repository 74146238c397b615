import SimplexReplay.Proofs.Exact.Outcome
import SimplexReplay.Proofs.Exact.Progress

/-!
# Passages of exact runs

A passage is a part of an exact run: its points, one after the other, with the basic columns of
each.  A passage that comes back to its first set of basic columns makes no progress at all, so it
shows the same solution at each of its points, and every column that enters or leaves is zero
there.
-/

namespace SimplexReplay

variable {m n : Nat}

theorem exists_loss {property : Nat → Prop} {first last : Nat} (ordered : first ≤ last)
    (holds : property first) (fails : ¬property last) :
    ∃ moment, first ≤ moment ∧ moment < last ∧ property moment ∧ ¬property (moment + 1) := by
  induction last, ordered using Nat.le_induction with
  | base => exact absurd holds fails
  | succ last ordered ih =>
      by_cases before : property last
      · exact ⟨last, ordered, Nat.lt_succ_self last, before, fails⟩
      · obtain ⟨moment, after, inside, lost⟩ := ih before
        exact ⟨moment, after, Nat.lt_succ_of_lt inside, lost⟩

/-- A property that is back at the end, but did not hold all the time, is lost at one moment and
gained at another. -/
theorem exists_loss_and_gain {property : Nat → Prop} {length : Nat}
    (same : property 0 ↔ property length) (held : ∃ moment ≤ length, property moment)
    (missed : ∃ moment ≤ length, ¬property moment) :
    (∃ moment < length, property moment ∧ ¬property (moment + 1)) ∧
      ∃ moment < length, ¬property moment ∧ property (moment + 1) := by
  obtain ⟨holding, holdingLe, holds⟩ := held
  obtain ⟨missing, missingLe, misses⟩ := missed
  by_cases atStart : property 0
  · obtain ⟨lost, -, lostLt, loss⟩ := exists_loss (Nat.zero_le missing) atStart misses
    obtain ⟨gained, -, gainedLt, missedThen, gain⟩ :=
      @exists_loss (fun moment => ¬property moment) missing length missingLe misses
        (not_not_intro (same.mp atStart))
    exact ⟨⟨lost, lt_of_lt_of_le lostLt missingLe, loss⟩,
      ⟨gained, gainedLt, missedThen, not_not.mp gain⟩⟩
  · have atEnd : ¬property length := fun back => atStart (same.mpr back)
    obtain ⟨lost, -, lostLt, loss⟩ := exists_loss holdingLe holds atEnd
    obtain ⟨gained, -, gainedLt, missedThen, gain⟩ :=
      @exists_loss (fun moment => ¬property moment) 0 holding (Nat.zero_le holding) atStart
        (not_not_intro holds)
    exact ⟨⟨lost, lostLt, loss⟩,
      ⟨gained, lt_of_lt_of_le gainedLt holdingLe, missedThen, not_not.mp gain⟩⟩

namespace Point

theorem Tracks.unique {point : Point Rat m n} {first second : Fin m → Fin n}
    (firstTracks : point.Tracks first) (secondTracks : point.Tracks second) : first = second := by
  have sameList := firstTracks.symm.trans secondTracks
  have sameValues := List.ofFn_injective sameList
  funext row
  exact Fin.ext (Int.ofNat_inj.mp (congrFun sameValues row))

end Point

/-- A part of a run that makes the given number of pivots, with the basic columns of its points. -/
structure Passage (setting : Setting Rat) (initial : Tableau Rat m n) (length : Nat)
    (point : Nat → Point Rat m n) (columns : Nat → Fin m → Fin n) : Prop where
  seen : ∀ moment ≤ length, (point moment).SeenFrom initial (columns moment)
  feasible : ∀ moment ≤ length, (point moment).tableau.Feasible
  swaps : ∀ moment < length, ∃ row column,
    Point.Swaps setting (point moment) (point (moment + 1)) (columns moment)
      (columns (moment + 1)) row column

variable {setting : Setting Rat} {initial : Tableau Rat m n} {length : Nat}
  {point : Nat → Point Rat m n}

/-- Points that lead to one another from a feasible point form a passage. -/
theorem exists_passage (toleranceEq : setting.tolerance = 0)
    (leads : ∀ moment < length, (point moment).Leads setting (point (moment + 1)))
    {start : Fin m → Fin n} (seen : (point 0).SeenFrom initial start)
    (feasible : (point 0).tableau.Feasible) :
    ∃ columns, Passage setting initial length point columns := by
  have reaches : ∀ moment ≤ length, (point 0).Reaches setting (point moment) := by
    intro moment inside
    induction moment with
    | zero => exact Relation.ReflTransGen.refl
    | succ moment ih => exact (ih (by omega)).tail (leads moment (by omega))
  have seenLater : ∀ moment, ∃ columns : Fin m → Fin n,
      moment ≤ length → (point moment).SeenFrom initial columns := by
    intro moment
    by_cases inside : moment ≤ length
    · obtain ⟨columns, seenThen⟩ :=
        (reaches moment inside).exists_seenFrom (le_of_eq toleranceEq.symm) seen
      exact ⟨columns, fun _ => seenThen⟩
    · exact ⟨start, fun within => absurd within inside⟩
  choose columns seenThen using seenLater
  refine ⟨columns, seenThen, ?_, ?_⟩
  · intro moment inside
    exact (reaches moment inside).feasible toleranceEq feasible
  · intro moment inside
    obtain ⟨row, column, chosen, nextEq⟩ := leads moment inside
    obtain ⟨entered, leaves⟩ := Tableau.choice_eq_pivot_iff.mp chosen
    refine ⟨row, column, entered, leaves, congrArg Point.tableau nextEq, ?_⟩
    -- Both lists of columns are tracked by the same basis.
    have tracksNext := (seenThen (moment + 1) inside).tracks
    rw [nextEq] at tracksNext
    exact tracksNext.unique
      ((seenThen moment (le_of_lt inside)).tracks.afterPivot row column)

namespace Passage

variable {columns : Nat → Fin m → Fin n}
  (passage : Passage setting initial length point columns)
include passage

theorem part {first last : Nat} (ordered : first ≤ last) (lastLe : last ≤ length) :
    Passage setting initial (last - first) (fun moment => point (first + moment))
      (fun moment => columns (first + moment)) where
  seen := fun moment inside => passage.seen (first + moment) (by omega)
  feasible := fun moment inside => passage.feasible (first + moment) (by omega)
  swaps := fun moment inside => passage.swaps (first + moment) (by omega)

theorem equivalent {first second : Nat} (firstLe : first ≤ length) (secondLe : second ≤ length) :
    (point first).tableau.Equivalent (point second).tableau :=
  (passage.seen first firstLe).equivalent.symm.trans (passage.seen second secondLe).equivalent

variable (toleranceEq : setting.tolerance = 0)
include toleranceEq

theorem objectiveCell_le {first last : Nat} (ordered : first ≤ last) (lastLe : last ≤ length) :
    (point first).tableau.objectiveCell ≤ (point last).tableau.objectiveCell := by
  induction last, ordered using Nat.le_induction with
  | base => exact le_refl _
  | succ last ordered ih =>
      obtain ⟨row, column, swaps⟩ := passage.swaps last lastLe
      have insideLe := Nat.le_of_succ_le lastLe
      have before := ih insideLe
      have step := swaps.objectiveCell_le toleranceEq (passage.feasible last insideLe)
      exact le_trans before step

variable (same : basicSet (columns 0) = basicSet (columns length))
include same

theorem objectiveCell_eq {moment : Nat} (inside : moment ≤ length) :
    (point moment).tableau.objectiveCell = (point 0).tableau.objectiveCell := by
  have startSeen := passage.seen 0 (Nat.zero_le length)
  have endSeen := passage.seen length (le_refl length)
  have ends : (point 0).tableau.objectiveCell = (point length).tableau.objectiveCell :=
    Tableau.objectiveCell_eq_of_basicSet_eq
      (passage.equivalent (Nat.zero_le length) (le_refl length))
      startSeen.canonical endSeen.canonical same
  apply le_antisymm
  · rw [ends]
    exact passage.objectiveCell_le toleranceEq inside (le_refl length)
  · exact passage.objectiveCell_le toleranceEq (Nat.zero_le moment) inside

/-- A passage that comes back to its first basic columns only pivots in rows whose right-hand side
is zero. -/
theorem rhs_eq_zero {moment : Nat} (inside : moment < length) {row : Fin m} {column : Fin n}
    (swaps : Point.Swaps setting (point moment) (point (moment + 1)) (columns moment)
      (columns (moment + 1)) row column) :
    (point moment).tableau.rhs row = 0 := by
  apply swaps.rhs_eq_zero toleranceEq
  rw [passage.objectiveCell_eq toleranceEq same inside,
    passage.objectiveCell_eq toleranceEq same (le_of_lt inside)]

/-- A passage that comes back to its first basic columns shows the same solution everywhere. -/
theorem basicSolution_eq {moment : Nat} (inside : moment ≤ length) :
    (point moment).tableau.basicSolution (columns moment) =
      (point 0).tableau.basicSolution (columns 0) := by
  induction moment with
  | zero => rfl
  | succ moment ih =>
      obtain ⟨row, column, swaps⟩ := passage.swaps moment inside
      have zero := passage.rhs_eq_zero toleranceEq same inside swaps
      rw [swaps.basicSolution_next zero, ih (Nat.le_of_succ_le inside)]

/-- A column that is basic at some moments only is zero at all of them. -/
theorem basicSolution_eq_zero {column : Fin n}
    (missed : ∃ moment ≤ length, column ∉ basicSet (columns moment)) {moment : Nat}
    (inside : moment ≤ length) :
    (point moment).tableau.basicSolution (columns moment) column = 0 := by
  obtain ⟨missing, missingLe, notBasic⟩ := missed
  rw [passage.basicSolution_eq toleranceEq same inside,
    ← passage.basicSolution_eq toleranceEq same missingLe]
  exact Tableau.basicSolution_of_not_mem _ notBasic

end Passage

/-- The points that an exact solve visits form a passage from the start of the program. -/
theorem Program.exists_passage {program : Program Rat} {rule : PivotRule} {cap : Nat}
    {course : Course Rat program.constraintCount program.columnCount}
    (bounds : ∀ constraint ∈ program.constraints, 0 ≤ constraint.bound)
    (solved : program.solve 0 rule cap = .ok course) :
    ∃ length point columns, course.visited.length = length + 1 ∧
      (∀ moment (inside : moment < course.visited.length),
        course.visited[moment] = point moment) ∧
      Passage (program.setting 0 rule) program.initialTableau length point columns := by
  obtain ⟨inner, trail, wraps⟩ := exists_trail_of_solve (le_refl 0) solved
  rw [wraps.visited_eq]
  have chain := List.isChain_iff_getElem.mp trail.isChain_visited
  have atMoment : ∀ moment (inside : moment < (program.start :: inner.visited).length),
      (program.start :: inner.visited)[moment] =
        (program.start :: inner.visited).getD moment program.start := by
    intro moment inside
    rw [List.getD_eq_getElem _ _ inside]
  have leads : ∀ moment < inner.visited.length,
      Point.Leads (program.setting 0 rule)
        ((program.start :: inner.visited).getD moment program.start)
        ((program.start :: inner.visited).getD (moment + 1) program.start) := by
    intro moment inside
    rw [← atMoment moment (Nat.lt_succ_of_lt inside),
      ← atMoment (moment + 1) (Nat.succ_lt_succ inside)]
    exact chain moment (Nat.succ_lt_succ inside)
  obtain ⟨columns, passage⟩ :=
    SimplexReplay.exists_passage rfl leads program.start_seenFrom (program.start_feasible bounds)
  exact ⟨inner.visited.length, _, columns, rfl, atMoment, passage⟩

end SimplexReplay
