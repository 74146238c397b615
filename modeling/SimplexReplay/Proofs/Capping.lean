import SimplexReplay.Program.Loose
import SimplexReplay.Proofs.AboveZero
import SimplexReplay.Proofs.Run.Solved

/-!
# What a cap does to a run

Without a cap a run would make its pivots one after another, as long as the choice at the point it
has come to is another pivot.  A cap that is at least the number of these pivots changes nothing.
A smaller one stops the run at the point after as many pivots as it allows, and a second run from
there goes on as if nothing had happened.
-/

namespace SimplexReplay

variable {α : Type} [Scalar α] {m n : Nat}

namespace Point

/-- The point after the pivot that a run makes next, if it makes one. -/
def next? (setting : Setting α) (point : Point α m n) : Option (Point α m n) :=
  match point.tableau.choice setting.tolerance setting.rule with
  | .ok (.pivot row column) => some (point.afterPivot row column)
  | .ok .finish | .ok (.unlimited _) | .error _ => none

/-- The point after a number of pivots of a run without a cap, if it makes that many. -/
def afterPivots? (setting : Setting α) : Nat → Point α m n → Option (Point α m n)
  | 0, point => some point
  | count + 1, point => (point.next? setting).bind (afterPivots? setting count)

/-- Every column, and every basic column of a row, has a name. -/
structure Covered (setting : Setting α) (point : Point α m n) : Prop where
  column_named : ∀ column : Fin n, ∃ text, setting.nameText column.val = .ok text
  basic_named : ∀ row : Fin m, ∃ basic text,
    point.basis[row.val]? = some basic ∧ setting.nameText basic = .ok text

variable {setting : Setting α} {point next last : Point α m n}

theorem next?_eq_some_iff :
    point.next? setting = some next ↔
      ∃ row column,
        point.tableau.choice setting.tolerance setting.rule = .ok (.pivot row column) ∧
          point.afterPivot row column = next := by
  cases chosen : point.tableau.choice setting.tolerance setting.rule with
  | error fault => simp [next?, chosen]
  | ok choice =>
      cases choice with
      | finish => simp [next?, chosen]
      | unlimited column => simp [next?, chosen]
      | pivot row column => simp [next?, chosen]

theorem afterPivots?_add (first second : Nat) (point : Point α m n) :
    point.afterPivots? setting (first + second) =
      (point.afterPivots? setting first).bind (afterPivots? setting second) := by
  induction first generalizing point with
  | zero => simp [afterPivots?]
  | succ first ih =>
      rw [Nat.add_right_comm, afterPivots?, afterPivots?, Option.bind_assoc]
      congr 1
      funext next
      exact ih next

theorem afterPivots?_succ (count : Nat) (point : Point α m n) :
    point.afterPivots? setting (count + 1) =
      (point.afterPivots? setting count).bind (next? setting) := by
  rw [afterPivots?_add]
  congr 1
  funext last
  cases made : last.next? setting <;> simp [afterPivots?, made]

theorem isSome_afterPivots?_of_le {count more : Nat} (le : count ≤ more)
    (made : (point.afterPivots? setting more).isSome) :
    (point.afterPivots? setting count).isSome := by
  obtain ⟨rest, rfl⟩ := Nat.exists_eq_add_of_le le
  rw [afterPivots?_add] at made
  exact Option.isSome_of_isSome_bind made

/-- A run without a cap makes a definite number of pivots, which may be infinite. -/
theorem exists_total (setting : Setting α) (point : Point α m n) :
    ∃ total : ℕ∞, ∀ count : ℕ,
      (point.afterPivots? setting count).isSome ↔ (count : ℕ∞) ≤ total := by
  classical
  by_cases endless : ∀ count, (point.afterPivots? setting count).isSome
  · exact ⟨⊤, fun count => by simp [endless count]⟩
  · have missing : ∃ count, ¬(point.afterPivots? setting count).isSome :=
      not_forall.mp endless
    -- The start itself is reached by no pivots, so the first count that is missed is a successor.
    have positive : 0 < Nat.find missing := by
      rw [Nat.find_pos]
      simp [afterPivots?]
    refine ⟨(Nat.find missing - 1 : ℕ), fun count => ?_⟩
    rw [Nat.cast_le]
    constructor
    · intro made
      by_contra! above
      have reached : Nat.find missing ≤ count := by omega
      exact Nat.find_spec missing (isSome_afterPivots?_of_le reached made)
    · intro within
      have before : count < Nat.find missing := by omega
      exact not_not.mp (Nat.find_min missing before)

theorem Covered.sound [Scalar.SeparatesZero α] (covered : point.Covered setting)
    (nonneg : 0 ≤ setting.tolerance) : setting.Sound n where
  named := covered.column_named
  element_ne_zero _ above := Scalar.SeparatesZero.beq_zero_of_lt nonneg above

theorem Covered.afterPivot (covered : point.Covered setting) (row : Fin m) (column : Fin n) :
    (point.afterPivot row column).Covered setting where
  column_named := covered.column_named
  basic_named := by
    intro other
    obtain ⟨basic, text, listed, named⟩ := covered.basic_named other
    by_cases same : row = other
    · subst same
      obtain ⟨entering, enteringNamed⟩ := covered.column_named column
      have inside : row.val < point.basis.length := (List.getElem?_eq_some_iff.mp listed).1
      exact ⟨column.val, entering, by simp [Point.afterPivot, inside], enteringNamed⟩
    · have apart : row.val ≠ other.val := fun equal => same (Fin.ext equal)
      exact ⟨basic, text, by simp [Point.afterPivot, List.getElem?_set_ne apart, listed], named⟩

theorem Covered.of_next? (covered : point.Covered setting)
    (made : point.next? setting = some next) : next.Covered setting := by
  obtain ⟨row, column, -, rfl⟩ := next?_eq_some_iff.mp made
  exact covered.afterPivot row column

theorem Covered.afterPivots (covered : point.Covered setting) {count : Nat}
    (made : point.afterPivots? setting count = some last) : last.Covered setting := by
  induction count generalizing point with
  | zero => exact Option.some.inj made ▸ covered
  | succ count ih =>
      obtain ⟨next, nextMade, rest⟩ := Option.bind_eq_some_iff.mp made
      exact ih (covered.of_next? nextMade) rest

theorem Covered.exists_exchange (covered : point.Covered setting) (row : Fin m)
    (column : Fin n) : ∃ exchange, point.exchange setting row column = .ok exchange := by
  obtain ⟨entering, enteringNamed⟩ := covered.column_named column
  obtain ⟨basic, leaving, listed, leavingNamed⟩ := covered.basic_named row
  exact ⟨_, exchange_eq_ok_iff.mpr ⟨_, _, _, enteringNamed, listed, leavingNamed, rfl⟩⟩

end Point

omit [Scalar α] in
theorem Point.Tracks.covered {setting : Setting α} {point : Point α m n} {columns : Fin m → Fin n}
    (tracks : point.Tracks columns)
    (named : ∀ column : Fin n, ∃ text, setting.nameText column.val = .ok text) :
    point.Covered setting where
  column_named := named
  basic_named row := by
    obtain ⟨text, basicNamed⟩ := named (columns row)
    exact ⟨_, text, tracks.getElem? row, basicNamed⟩

theorem Program.covered_start (program : Program α) (tolerance : α) (rule : PivotRule) :
    program.start.Covered (program.setting tolerance rule) :=
  program.start_tracks.covered (program.setting_named tolerance rule)

def Step.after (count : Nat) (step : Step α m n) : Step α m n :=
  { step with iteration := step.iteration + count }

/-- The course with its pivots counted after some pivots made before. -/
def Course.after (count : Nat) (course : Course α m n) : Course α m n :=
  { course with steps := course.steps.map (Step.after count), pivots := course.pivots + count }

def Course.prepend (steps : List (Step α m n)) (course : Course α m n) : Course α m n :=
  { course with steps := steps ++ course.steps }

/-- The pivots made before a run only move its count. -/
theorem run_after (setting : Setting α) (allowed made count : Nat) (point : Point α m n) :
    run setting allowed (made + count) point = (run setting allowed made point).after count := by
  fun_induction run setting allowed made point with
  | case1 allowed made point fault chosen | case2 allowed made point chosen =>
      rw [run, chosen]
      simp [Point.ends, Course.after]
  | case3 allowed made point column chosen fault named =>
      rw [run, chosen]
      simp [named, Point.ends, Course.after]
  | case4 allowed made point column chosen entering named ratios =>
      rw [run, chosen]
      simp [named, Point.ends, Course.after, Point.step, Step.after, ratios, Nat.add_right_comm]
  | case5 made point row column chosen =>
      rw [run, chosen]
      simp [Point.ends, Course.after]
  | case6 made point row column chosen allowed fault recorded =>
      rw [run, chosen]
      simp [recorded, Point.ends, Course.after]
  | case7 made point row column chosen allowed exchange recorded before fault pivoted =>
      rw [run, chosen]
      simp [recorded, pivoted, Point.ends, Course.after, Point.step, Step.after, before,
        Nat.add_right_comm]
  | case8 made point row column chosen allowed exchange recorded before next pivoted after
      course ih =>
      rw [run, chosen]
      simp only [recorded, pivoted, Nat.add_right_comm made count 1, ih]
      rfl

theorem run_zero_of_next? {setting : Setting α} {point next : Point α m n} (made : Nat)
    (pivots : point.next? setting = some next) :
    run setting 0 made point = point.ends made [] .capped := by
  obtain ⟨row, column, chosen, -⟩ := Point.next?_eq_some_iff.mp pivots
  rw [run, chosen]

namespace Point.Covered

variable {setting : Setting α} {point next last : Point α m n} (covered : point.Covered setting)
include covered

theorem run_of_next?_eq_none (someRow : m ≠ 0) (stops : point.next? setting = none) :
    ∃ status, ∃ record : Nat → List (Step α m n), ∀ allowed made,
      run setting allowed made point = point.ends made (record made) (.reached status) := by
  obtain ⟨choice, chosen⟩ := point.tableau.choice_ok someRow setting.tolerance setting.rule
  cases choice with
  | finish =>
      refine ⟨.optimal, fun _ => [], fun allowed made => ?_⟩
      rw [run, chosen]
  | unlimited column =>
      obtain ⟨entering, named⟩ := covered.column_named column
      let ratios := point.tableau.ratios column.castSucc setting.tolerance
      refine ⟨.unbounded, fun made => [point.step (made + 1) (.unbounded column entering ratios)],
        fun allowed made => ?_⟩
      rw [run, chosen]
      simp only [named]
      rfl
  | pivot row column => simp [next?, chosen] at stops

variable [Scalar.SeparatesZero α] (nonneg : 0 ≤ setting.tolerance)
include nonneg

theorem run_succ_of_next? (pivots : point.next? setting = some next) :
    ∃ record : Nat → List (Step α m n), (∀ made, (record made).length = 2) ∧
      ∀ allowed made, run setting (allowed + 1) made point =
        (run setting allowed (made + 1) next).prepend (record made) := by
  obtain ⟨row, column, chosen, rfl⟩ := next?_eq_some_iff.mp pivots
  obtain ⟨exchange, recorded⟩ := covered.exists_exchange row column
  have pivoted := pivot?_of_choice (covered.sound nonneg) chosen
  refine ⟨fun made => [point.step (made + 1) (.pivot exchange),
    (point.afterPivot row column).step (made + 1) (.afterPivot exchange)], fun _ => rfl, ?_⟩
  intro allowed made
  rw [run]
  simp only [chosen, recorded, pivoted]
  rfl

/-- A run whose cap allows some pivots that it needs makes them, records two steps for each, and
goes on with what the cap still allows. -/
theorem run_add_of_afterPivots? {count : Nat}
    (reached : point.afterPivots? setting count = some last) :
    ∃ record : Nat → List (Step α m n), (∀ made, (record made).length = 2 * count) ∧
      ∀ allowed made, run setting (count + allowed) made point =
        (run setting allowed (made + count) last).prepend (record made) := by
  induction count generalizing point with
  | zero =>
      obtain rfl := Option.some.inj reached
      exact ⟨fun _ => [], fun _ => rfl, fun allowed made => by rw [Nat.zero_add]; rfl⟩
  | succ count ih =>
      obtain ⟨next, pivots, rest⟩ := Option.bind_eq_some_iff.mp reached
      obtain ⟨first, firstLength, firstRun⟩ := covered.run_succ_of_next? nonneg pivots
      obtain ⟨later, laterLength, laterRun⟩ := ih (covered.of_next? pivots) rest
      refine ⟨fun made => first made ++ later (made + 1), ?_, ?_⟩
      · intro made
        rw [List.length_append, firstLength, laterLength]
        omega
      · intro allowed made
        rw [Nat.add_right_comm, firstRun, laterRun, Nat.add_right_comm made 1 count,
          Nat.add_assoc made count 1]
        simp [Course.prepend]

theorem run_of_enough (someRow : m ≠ 0) {count : Nat}
    (reached : point.afterPivots? setting count = some last)
    (stops : last.next? setting = none) :
    ∃ status steps, ∀ cap, count ≤ cap →
      run setting cap 0 point = ⟨steps, last, count, .reached status⟩ := by
  obtain ⟨record, -, split⟩ := covered.run_add_of_afterPivots? nonneg reached
  obtain ⟨status, final, ends⟩ :=
    (covered.afterPivots reached).run_of_next?_eq_none someRow stops
  refine ⟨status, record 0 ++ final count, fun cap le => ?_⟩
  obtain ⟨rest, rfl⟩ := Nat.exists_eq_add_of_le le
  rw [split, ends, Nat.zero_add]
  rfl

/-- A run with too few pivots allowed is capped after all of them, and a run that goes on from
there completes its course. -/
theorem run_of_short {cap : Nat} (reached : point.afterPivots? setting cap = some last)
    (pivots : last.next? setting = some next) :
    ∃ steps : List (Step α m n), steps.length = 2 * cap ∧
      run setting cap 0 point = ⟨steps, last, cap, .capped⟩ ∧
      ∀ more, run setting (cap + more) 0 point =
        ((run setting more 0 last).after cap).prepend steps := by
  obtain ⟨record, length, split⟩ := covered.run_add_of_afterPivots? nonneg reached
  refine ⟨record 0, length 0, ?_, fun more => ?_⟩
  · have stopped := split 0 0
    rw [run_zero_of_next? _ pivots, Nat.zero_add, Nat.add_zero] at stopped
    simpa [Course.prepend, ends] using stopped
  · rw [split, run_after]

end Point.Covered

/-- What caps do to the run from a point that would make a total of pivots, possibly infinitely
many, without one.  A cap that is not below the total changes nothing.  A cap below it stops the
run after as many pivots as it allows, with two steps recorded for each, and a second run from
there completes the course. -/
structure Point.CutByCaps (setting : Setting α) (point : Point α m n) (total : ℕ∞) : Prop where
  isSome_afterPivots?_iff : ∀ count : ℕ,
    (point.afterPivots? setting count).isSome ↔ (count : ℕ∞) ≤ total
  enough : ∀ count : ℕ, (count : ℕ∞) = total → ∃ status last steps,
    point.afterPivots? setting count = some last ∧
      ∀ cap, count ≤ cap → run setting cap 0 point = ⟨steps, last, count, .reached status⟩
  short : ∀ cap : ℕ, (cap : ℕ∞) < total → ∃ last steps,
    point.afterPivots? setting cap = some last ∧ steps.length = 2 * cap ∧
      run setting cap 0 point = ⟨steps, last, cap, .capped⟩ ∧
      (run setting cap 0 point).ending.status (.ofNat cap) =
        .error (.notConverged (toString cap))
  resumed : ∀ cap more : ℕ, (cap : ℕ∞) < total →
    let first := run setting cap 0 point
    let again := run setting more 0 first.last
    let whole := run setting (cap + more) 0 point
    again.last = whole.last ∧ again.ending = whole.ending ∧
      first.pivots + again.pivots = whole.pivots ∧
      whole.steps = first.steps ++ again.steps.map (Step.after first.pivots)

/-- A cap only cuts a run short. -/
theorem Point.exists_cutByCaps [Scalar.SeparatesZero α] {setting : Setting α} {point : Point α m n}
    (someRow : m ≠ 0) (nonneg : 0 ≤ setting.tolerance) (covered : point.Covered setting) :
    ∃ total, point.CutByCaps setting total := by
  obtain ⟨total, made⟩ := exists_total setting point
  have last_of_le {count : ℕ} (le : (count : ℕ∞) ≤ total) :
      ∃ last, point.afterPivots? setting count = some last :=
    Option.isSome_iff_exists.mp ((made count).mpr le)
  have next_of_lt {cap : ℕ} (below : (cap : ℕ∞) < total) :
      ∃ last next, point.afterPivots? setting cap = some last ∧
        last.next? setting = some next := by
    obtain ⟨next, reached⟩ := last_of_le (Order.add_one_le_of_lt below)
    rw [afterPivots?_succ] at reached
    obtain ⟨last, lastReached, pivots⟩ := Option.bind_eq_some_iff.mp reached
    exact ⟨last, next, lastReached, pivots⟩
  refine ⟨total, made, ?_, ?_, ?_⟩
  · rintro count rfl
    obtain ⟨last, reached⟩ := last_of_le (le_refl _)
    have stops : last.next? setting = none := by
      have missing : ¬(point.afterPivots? setting (count + 1)).isSome := by
        rw [made, Nat.cast_le]
        omega
      rw [afterPivots?_succ, reached] at missing
      simpa using missing
    obtain ⟨status, steps, same⟩ := covered.run_of_enough nonneg someRow reached stops
    exact ⟨status, last, steps, reached, same⟩
  · intro cap below
    obtain ⟨last, next, reached, pivots⟩ := next_of_lt below
    obtain ⟨steps, length, stopped, -⟩ := covered.run_of_short nonneg reached pivots
    refine ⟨last, steps, reached, length, stopped, ?_⟩
    rw [stopped]
    rfl
  · intro cap more below
    obtain ⟨last, next, reached, pivots⟩ := next_of_lt below
    obtain ⟨steps, -, stopped, completed⟩ := covered.run_of_short nonneg reached pivots
    rw [stopped, completed]
    exact ⟨rfl, rfl, Nat.add_comm .., rfl⟩

/-- Without a cap the production plan takes three pivots under Bland's rule. -/
theorem Program.cutByCaps_production :
    let program := Example.production.program
    program.constraintCount ≠ 0 ∧ (0 : Float) ≤ Options.defaultTolerance ∧
      program.start.Covered (program.setting Options.defaultTolerance .bland) ∧
      program.start.CutByCaps (program.setting Options.defaultTolerance .bland) 3 := by
  intro program
  have someRow : program.constraintCount ≠ 0 := by decide
  have nonneg : (0 : Float) ≤ Options.defaultTolerance := by decide +kernel
  have covered := program.covered_start Options.defaultTolerance .bland
  obtain ⟨total, cut⟩ := Point.exists_cutByCaps someRow nonneg covered
  have three : ((3 : ℕ) : ℕ∞) ≤ total := (cut.isSome_afterPivots?_iff 3).mp (by decide +kernel)
  have notFour : ¬((3 + 1 : ℕ) : ℕ∞) ≤ total := by
    rw [← cut.isSome_afterPivots?_iff]
    decide +kernel
  have atMostThree : total ≤ (3 : ℕ) :=
    (ENat.lt_add_one_iff (ENat.natCast_ne_top 3)).mp (not_le.mp notFour)
  obtain rfl : total = 3 := le_antisymm atMostThree three
  exact ⟨someRow, nonneg, covered, cut⟩

end SimplexReplay
