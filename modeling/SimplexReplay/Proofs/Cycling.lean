import Mathlib.Combinatorics.Pigeonhole
import Mathlib.Data.Finset.Powerset
import SimplexReplay.Proofs.Exact.Fickle

/-!
# Cycling under Bland's rule

Bland's rule names the column that enters, and the first row of the least ratio leaves, whatever
its basic column is.  So a run can come back to a basis, as the looping program shows, but only
when a pivot on the way passes over an earlier basic column of the same ratio.  A run without such
a pivot visits every basis at most once, and ends before it has visited more bases than there are.
-/

namespace SimplexReplay

variable {m n : Nat}

namespace Point

/-- Two points have the same set of basic columns. -/
def SameBasis (first second : Point Rat m n) : Prop :=
  ∀ column, column ∈ first.basis ↔ column ∈ second.basis

theorem Tracks.mem_basis_iff {point : Point Rat m n} {columns : Fin m → Fin n}
    (tracks : point.Tracks columns) (column : Fin n) :
    (column.val : Int) ∈ point.basis ↔ column ∈ basicSet columns := by
  rw [tracks, mem_basicSet, List.mem_ofFn]
  constructor
  · rintro ⟨row, valueEq⟩
    exact ⟨row, Fin.ext (Int.ofNat_inj.mp valueEq)⟩
  · rintro ⟨row, rfl⟩
    exact ⟨row, rfl⟩

theorem SameBasis.basicSet_eq {first second : Point Rat m n}
    {firstColumns secondColumns : Fin m → Fin n} (same : first.SameBasis second)
    (firstTracks : first.Tracks firstColumns) (secondTracks : second.Tracks secondColumns) :
    basicSet firstColumns = basicSet secondColumns := by
  ext column
  rw [← firstTracks.mem_basis_iff, ← secondTracks.mem_basis_iff]
  exact same column.val

end Point

theorem basicSet_mem_powersetCard {columns : Fin m → Fin n}
    (distinct : Function.Injective columns) :
    basicSet columns ∈ (Finset.univ : Finset (Fin n)).powersetCard m := by
  rw [Finset.mem_powersetCard]
  constructor
  · exact Finset.subset_univ (basicSet columns)
  · rw [basicSet, Finset.card_image_of_injective _ distinct, Finset.card_univ, Fintype.card_fin]

namespace Passage

variable {setting : Setting Rat} {initial : Tableau Rat m n} {length : Nat}
  {point : Nat → Point Rat m n} {columns : Nat → Fin m → Fin n}
  (passage : Passage setting initial length point columns)
  (toleranceEq : setting.tolerance = 0) (bland : setting.rule = .bland)
include passage toleranceEq bland

theorem exists_passesOver_between {first last : Nat} (ordered : first < last)
    (lastLe : last ≤ length) (same : basicSet (columns first) = basicSet (columns last)) :
    ∃ moment, first ≤ moment ∧ moment < last ∧ (point moment).PassesOver setting := by
  have part := passage.part (le_of_lt ordered) lastLe
  have ends : basicSet (columns (first + 0)) = basicSet (columns (first + (last - first))) := by
    rw [Nat.add_zero, Nat.add_sub_cancel' (le_of_lt ordered)]
    exact same
  obtain ⟨moment, inside, passes⟩ := part.exists_passesOver ends toleranceEq bland (by omega)
  exact ⟨first + moment, by omega, by omega, passes⟩

/-- A passage that passes over no earlier column visits every set of basic columns at most once. -/
theorem length_lt_choose (fair : ∀ moment < length, ¬(point moment).PassesOver setting) :
    length < n.choose m := by
  by_contra long
  have fewer : ((Finset.univ : Finset (Fin n)).powersetCard m).card <
      (Finset.range (length + 1)).card := by
    rw [Finset.card_powersetCard, Finset.card_univ, Fintype.card_fin, Finset.card_range]
    omega
  have mapsTo : ∀ moment ∈ Finset.range (length + 1),
      basicSet (columns moment) ∈ (Finset.univ : Finset (Fin n)).powersetCard m := by
    intro moment inside
    have momentLe : moment ≤ length := Nat.lt_succ_iff.mp (Finset.mem_range.mp inside)
    exact basicSet_mem_powersetCard (passage.seen moment momentLe).canonical.injective
  have noReturn : ∀ first last, first < last → last ≤ length →
      basicSet (columns first) ≠ basicSet (columns last) := by
    intro first last ordered lastLe same
    obtain ⟨moment, -, before, passes⟩ :=
      passage.exists_passesOver_between toleranceEq bland ordered lastLe same
    exact fair moment (lt_of_lt_of_le before lastLe) passes
  obtain ⟨first, firstInside, second, secondInside, different, same⟩ :=
    Finset.exists_ne_map_eq_of_card_lt_of_maps_to fewer mapsTo
  have firstLe := Nat.lt_succ_iff.mp (Finset.mem_range.mp firstInside)
  have secondLe := Nat.lt_succ_iff.mp (Finset.mem_range.mp secondInside)
  rcases lt_or_gt_of_ne different with before | after
  · exact noReturn first second before secondLe same
  · exact noReturn second first after firstLe same.symm

end Passage

namespace Program

/-- An exact solve that comes back to a point is capped under every cap. -/
theorem capped_of_return {program : Program Rat} {rule : PivotRule} {cap : Nat}
    {course : Course Rat program.constraintCount program.columnCount}
    (solved : program.solve 0 rule cap = .ok course) {first last : Nat} (ordered : first < last)
    (inside : last < course.visited.length)
    (back : course.visited[last]? = course.visited[first]?) (allowed : Nat) :
    ∃ other, program.solve 0 rule allowed = .ok other ∧ other.ending = .capped := by
  have again := solve_eq_ok_iff.mpr
    ⟨(solve_eq_ok_iff.mp solved).1, (rfl : program.course 0 rule allowed = _)⟩
  obtain ⟨inner, trail, wraps⟩ := exists_trail_of_solve (le_refl 0) solved
  obtain ⟨other, otherTrail, otherWraps⟩ := exists_trail_of_solve (le_refl 0) again
  rw [wraps.visited_eq] at inside back
  have closed := Trail.closed_of_return trail.isChain_visited ordered inside back
  have started : program.start ∈ (program.start :: inner.visited).take last :=
    List.mem_take_iff_getElem.mpr ⟨0, by omega, rfl⟩
  have capped := otherTrail.capped_of_closed closed started
  exact ⟨_, again, otherWraps.ending_eq.trans capped⟩

/-- An exact solve under Bland's rule comes back to a set of basic columns only when a pivot on the
way passes over an earlier basic column of the same ratio.  Without such a pivot it ends with a
status as soon as the cap allows as many pivots as there are sets of columns that could be basic. -/
theorem exists_passesOver_of_solve {program : Program Rat} (wellShaped : program.WellShaped)
    (bounds : ∀ constraint ∈ program.constraints, 0 ≤ constraint.bound) (cap : Nat) :
    ∃ course, program.solve 0 .bland cap = .ok course ∧
      (∀ first last : Fin course.visited.length, first < last →
        course.visited[first].SameBasis course.visited[last] →
        ∃ between : Fin course.visited.length, first ≤ between ∧ between < last ∧
          course.visited[between].PassesOver (program.setting 0 .bland)) ∧
      (program.columnCount.choose program.constraintCount ≤ cap →
        (∀ point ∈ course.visited, ¬point.PassesOver (program.setting 0 .bland)) →
        course.ending = .reached .optimal ∨ course.ending = .reached .unbounded) := by
  refine ⟨program.course 0 .bland cap, solve_eq_ok_iff.mpr ⟨wellShaped, rfl⟩, ?_⟩
  have solved := solve_eq_ok_iff.mpr ⟨wellShaped, (rfl : program.course 0 .bland cap = _)⟩
  generalize program.course 0 .bland cap = course at solved
  obtain ⟨length, point, columns, lengthEq, pointEq, passage⟩ := exists_passage bounds solved
  constructor
  · intro first last ordered same
    have firstLe : first.val ≤ length := by omega
    have lastLe : last.val ≤ length := by omega
    have sameSet := same.basicSet_eq
      (pointEq first first.isLt ▸ (passage.seen first firstLe).tracks)
      (pointEq last last.isLt ▸ (passage.seen last lastLe).tracks)
    obtain ⟨moment, after, before, passes⟩ :=
      passage.exists_passesOver_between rfl rfl ordered lastLe sameSet
    have inside : moment < course.visited.length := lt_trans before last.isLt
    exact ⟨⟨moment, inside⟩, after, before, pointEq moment inside ▸ passes⟩
  · intro enough fair
    have fewer : length < program.columnCount.choose program.constraintCount := by
      apply passage.length_lt_choose rfl rfl
      intro moment before
      have inside : moment < course.visited.length := by omega
      rw [← pointEq moment inside]
      exact fair _ (List.getElem_mem inside)
    rcases ending_cases (le_refl 0) solved with optimal | unbounded | capped
    · exact Or.inl optimal
    · exact Or.inr unbounded
    · have allMade := length_visited_of_capped (le_refl 0) solved capped
      omega

/-- A maximum with two tied constraints that both have bound zero. -/
def looping : Program Rat where
  objective := .maximize
  costs := [1, 2, -2, -2, 1]
  constraints := [⟨[-2, -1, 0, 1, -1], .atMost, 0⟩, ⟨[1, 1, -1, 1, -2], .atMost, 0⟩]

theorem wellShaped_looping : looping.WellShaped := by
  simp [WellShaped, variableCount, constraintCount, looping]

theorem length_visited_looping : (looping.course 0 .bland 7).visited.length = 8 := by
  decide +kernel

theorem visited_looping_back :
    (looping.course 0 .bland 7).visited[7]? = (looping.course 0 .bland 7).visited[1]? := by
  decide +kernel

theorem sameBasis_looping :
    ∃ first last : Fin (looping.course 0 .bland 7).visited.length, first.val = 1 ∧ last.val = 7 ∧
      (looping.course 0 .bland 7).visited[first].SameBasis
        (looping.course 0 .bland 7).visited[last] := by
  have long := length_visited_looping
  have back := visited_looping_back
  rw [List.getElem?_eq_getElem (by omega), List.getElem?_eq_getElem (by omega)] at back
  refine ⟨⟨1, by omega⟩, ⟨7, by omega⟩, rfl, rfl, ?_⟩
  intro column
  simp [Option.some.inj back]

/-- The looping program comes back to a basis, and no cap lets it end. -/
theorem looping_returns :
    looping.WellShaped ∧ (∀ constraint ∈ looping.constraints, 0 ≤ constraint.bound) ∧
      (∃ first last : Fin (looping.course 0 .bland 7).visited.length, first < last ∧
        (looping.course 0 .bland 7).visited[first].SameBasis
          (looping.course 0 .bland 7).visited[last]) ∧
      ∀ cap, ∃ course, looping.solve 0 .bland cap = .ok course ∧ course.ending = .capped := by
  refine ⟨wellShaped_looping, by decide, ?_, ?_⟩
  · obtain ⟨first, last, firstEq, lastEq, same⟩ := sameBasis_looping
    exact ⟨first, last, by omega, same⟩
  · have solved := solve_eq_ok_iff.mpr
      ⟨wellShaped_looping, (rfl : looping.course 0 .bland 7 = _)⟩
    exact capped_of_return solved (by decide : 1 < 7)
      (length_visited_looping ▸ (by decide : 7 < 8)) visited_looping_back

/-- A maximum without ties. -/
def planning : Program Rat where
  objective := .maximize
  costs := [3, 5]
  constraints := [⟨[1, 0], .atMost, 4⟩, ⟨[0, 2], .atMost, 12⟩, ⟨[3, 2], .atMost, 18⟩]

/-- On its way back the looping program passes over an earlier basic column.  The planning program
never does, and ends. -/
theorem passesOver_looping :
    (∃ course, looping.solve 0 .bland 7 = .ok course ∧
      ∃ between : Fin course.visited.length, 1 ≤ between.val ∧ between.val < 7 ∧
        course.visited[between].PassesOver (looping.setting 0 .bland)) ∧
      ∃ course, planning.solve 0 .bland 10 = .ok course ∧
        (course.ending = .reached .optimal ∨ course.ending = .reached .unbounded) := by
  constructor
  · obtain ⟨course, solved, returns, -⟩ :=
      looping.exists_passesOver_of_solve wellShaped_looping (by decide) 7
    refine ⟨course, solved, ?_⟩
    obtain ⟨-, rfl⟩ := solve_eq_ok_iff.mp solved
    obtain ⟨first, last, firstEq, lastEq, same⟩ := sameBasis_looping
    obtain ⟨between, after, before, passes⟩ := returns first last (by omega) same
    exact ⟨between, by omega, by omega, passes⟩
  · obtain ⟨course, solved, -, ends⟩ :=
      planning.exists_passesOver_of_solve
        (by simp [WellShaped, variableCount, constraintCount, planning]) (by decide) 10
    refine ⟨course, solved, ends (by decide) ?_⟩
    obtain ⟨-, rfl⟩ := solve_eq_ok_iff.mp solved
    decide +kernel

end Program

end SimplexReplay
