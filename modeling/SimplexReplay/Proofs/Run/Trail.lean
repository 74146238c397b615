import Mathlib.Data.List.Chain
import Mathlib.Logic.Relation
import SimplexReplay.Proofs.Run.Choice

/-!
# The trail of a run

A run whose columns all have names and whose pivot elements are no zeros goes from point to point
by pivots until it finishes, finds a column without limit, or meets its cap.  `Trail` says so as a
relation between a start and a course, and `run_trail` shows that every such run leaves one.  What
holds along a run is then proved by induction on its trail, over scalars of any kind.
-/

namespace SimplexReplay

variable {α : Type} [Scalar α] {m n : Nat}

omit [Scalar α] in
theorem Setting.nameText_eq_ok_iff {setting : Setting α} {position : Int} {text : String} :
    setting.nameText position = .ok text ↔
      ∃ name, setting.names.nameAt position = .ok name ∧ name.spell = .ok text := by
  cases found : setting.names.nameAt position with
  | error fault => simp [nameText, found, bind, Except.bind]
  | ok name => simp [nameText, found, bind, Except.bind]

/-- A setting that breaks no run on tableaus with `n` columns: every column has a name, and no
element above the tolerance is a zero. -/
structure Setting.Sound (setting : Setting α) (n : Nat) : Prop where
  named : ∀ column : Fin n, ∃ text, setting.nameText column.val = .ok text
  element_ne_zero : ∀ value, setting.tolerance < value → (value == 0) = false

namespace Point

/-- The basis of the point lists the given column of each row. -/
def Tracks (point : Point α m n) (columns : Fin m → Fin n) : Prop :=
  point.basis = List.ofFn fun row => ((columns row).val : Int)

def afterPivot (point : Point α m n) (row : Fin m) (column : Fin n) : Point α m n :=
  ⟨point.tableau.pivot row.succ column.castSucc, point.basis.set row.val column.val⟩

/-- A run in this setting goes from the point to the next one by a pivot. -/
def Leads (setting : Setting α) (point next : Point α m n) : Prop :=
  ∃ row column, point.tableau.choice setting.tolerance setting.rule = .ok (.pivot row column) ∧
    next = point.afterPivot row column

/-- A run in this setting goes from the point to the other one by some pivots. -/
abbrev Reaches (setting : Setting α) : Point α m n → Point α m n → Prop :=
  Relation.ReflTransGen (Leads setting)

omit [Scalar α] in
theorem Tracks.getElem? {point : Point α m n} {columns : Fin m → Fin n}
    (tracks : point.Tracks columns) (row : Fin m) :
    point.basis[row.val]? = some ((columns row).val : Int) := by
  rw [tracks]
  simp

theorem Tracks.afterPivot {point : Point α m n} {columns : Fin m → Fin n}
    (tracks : point.Tracks columns) (row : Fin m) (column : Fin n) :
    (point.afterPivot row column).Tracks (Function.update columns row column) := by
  change point.basis.set row.val column.val = _
  rw [tracks]
  apply List.ext_getElem (by simp)
  intro position first second
  by_cases same : row.val = position
  · subst same
    simp
  · have other : (⟨position, by simpa using second⟩ : Fin m) ≠ row := by
      intro equal
      exact same (congrArg Fin.val equal).symm
    simp [same, Function.update_of_ne other]

theorem pivot?_of_choice {setting : Setting α} (sound : setting.Sound n) {point : Point α m n}
    {row : Fin m} {column : Fin n}
    (chosen : point.tableau.choice setting.tolerance setting.rule = .ok (.pivot row column)) :
    point.pivot? row column = .ok (point.afterPivot row column) := by
  have leaves := (Tableau.choice_eq_pivot_iff.mp chosen).2
  have nonzero : (point.tableau.entry row.succ column.castSucc == 0) = false :=
    sound.element_ne_zero _ (Tableau.lt_body_of_leaving leaves)
  simp [pivot?, Tableau.pivot?, nonzero, afterPivot, bind, Except.bind, pure, Except.pure]

/-- An exchange is recorded if both columns have a name, in the order in which it is asked for. -/
theorem exchange_eq_ok_iff {point : Point α m n} {setting : Setting α} {row : Fin m}
    {column : Fin n} {exchange : Exchange α m n} :
    point.exchange setting row column = .ok exchange ↔
      ∃ basic entering leaving, setting.nameText column.val = .ok entering ∧
        point.basis[row.val]? = some basic ∧ setting.nameText basic = .ok leaving ∧
        exchange = {
          row, column, basic, entering, leaving
          ratios := point.tableau.ratios column.castSucc setting.tolerance
          element := point.tableau.body row column.castSucc
          reducedCost := point.tableau.reducedCost column } := by
  constructor
  · intro recorded
    obtain ⟨enteringName, enteringFound, recorded⟩ := exists_of_bind_eq_ok recorded
    obtain ⟨basic, basicFound, recorded⟩ := exists_of_bind_eq_ok recorded
    obtain ⟨leavingName, leavingFound, recorded⟩ := exists_of_bind_eq_ok recorded
    obtain ⟨entering, enteringSpelled, recorded⟩ := exists_of_bind_eq_ok recorded
    obtain ⟨leaving, leavingSpelled, recorded⟩ := exists_of_bind_eq_ok recorded
    exact ⟨basic, entering, leaving,
      Setting.nameText_eq_ok_iff.mpr ⟨_, enteringFound, enteringSpelled⟩,
      basicColumn_eq_ok_iff.mp basicFound,
      Setting.nameText_eq_ok_iff.mpr ⟨_, leavingFound, leavingSpelled⟩,
      (Except.ok.inj recorded).symm⟩
  · rintro ⟨basic, entering, leaving, enteringEq, listed, leavingEq, rfl⟩
    obtain ⟨enteringName, enteringFound, enteringSpelled⟩ :=
      Setting.nameText_eq_ok_iff.mp enteringEq
    obtain ⟨leavingName, leavingFound, leavingSpelled⟩ := Setting.nameText_eq_ok_iff.mp leavingEq
    simp [Point.exchange, enteringFound, enteringSpelled, basicColumn_eq_ok_iff.mpr listed,
      leavingFound, leavingSpelled,
      bind, Except.bind, pure, Except.pure]

theorem exchange_of_tracks {setting : Setting α} (sound : setting.Sound n)
    {point : Point α m n} {columns : Fin m → Fin n} (tracks : point.Tracks columns)
    (row : Fin m) (column : Fin n) :
    ∃ entering leaving,
      setting.nameText column.val = .ok entering ∧
      setting.nameText (columns row).val = .ok leaving ∧
      point.exchange setting row column = .ok {
        row, column, basic := (columns row).val, entering, leaving
        ratios := point.tableau.ratios column.castSucc setting.tolerance
        element := point.tableau.body row column.castSucc
        reducedCost := point.tableau.reducedCost column } := by
  obtain ⟨entering, enteringEq⟩ := sound.named column
  obtain ⟨leaving, leavingEq⟩ := sound.named (columns row)
  exact ⟨entering, leaving, enteringEq, leavingEq,
    exchange_eq_ok_iff.mpr ⟨_, _, _, enteringEq, tracks.getElem? row, leavingEq, rfl⟩⟩

end Point

def Step.point (step : Step α m n) : Point α m n :=
  ⟨step.tableau, step.basis⟩

/-- Whether an event records a point where the run has just arrived. -/
def Event.isArrival : Event α m n → Bool
  | .initial | .afterPivot _ => true
  | .pivot _ | .unbounded _ _ _ | .optimal _ => false

def arrivals (steps : List (Step α m n)) : List (Point α m n) :=
  (steps.filter fun step => step.event.isArrival).map Step.point

/-- The points that a course visits: its start and the point after each pivot. -/
def Course.visited (course : Course α m n) : List (Point α m n) :=
  arrivals course.steps

/-- How a run goes on from a point when nothing breaks it, with a number of pivots still allowed
and a number of pivots already made. -/
inductive Trail (setting : Setting α) : Nat → Nat → Point α m n → Course α m n → Prop
  | finish {allowed made : Nat} {point : Point α m n}
      (chosen : point.tableau.choice setting.tolerance setting.rule = .ok .finish) :
      Trail setting allowed made point (point.ends made [] (.reached .optimal))
  | unlimited {allowed made : Nat} {point : Point α m n} (column : Fin n) (entering : String)
      (chosen : point.tableau.choice setting.tolerance setting.rule = .ok (.unlimited column))
      (named : setting.nameText column.val = .ok entering) :
      Trail setting allowed made point
        (point.ends made
          [point.step (made + 1) (.unbounded column entering
            (point.tableau.ratios column.castSucc setting.tolerance))]
          (.reached .unbounded))
  | capped {made : Nat} {point : Point α m n} (row : Fin m) (column : Fin n)
      (chosen : point.tableau.choice setting.tolerance setting.rule = .ok (.pivot row column)) :
      Trail setting 0 made point (point.ends made [] .capped)
  | pivot {allowed made : Nat} {point : Point α m n} {course : Course α m n}
      (row : Fin m) (column : Fin n) (exchange : Exchange α m n)
      (chosen : point.tableau.choice setting.tolerance setting.rule = .ok (.pivot row column))
      (recorded : point.exchange setting row column = .ok exchange)
      (rest : Trail setting allowed (made + 1) (point.afterPivot row column) course) :
      Trail setting (allowed + 1) made point
        { course with
          steps := point.step (made + 1) (.pivot exchange) ::
            (point.afterPivot row column).step (made + 1) (.afterPivot exchange) ::
              course.steps }

/-- Every run from a tracked point leaves a trail. -/
theorem run_trail {setting : Setting α} (sound : setting.Sound n) (someRow : m ≠ 0)
    (allowed made : Nat) {point : Point α m n} {columns : Fin m → Fin n}
    (tracks : point.Tracks columns) :
    Trail setting allowed made point (run setting allowed made point) := by
  induction allowed generalizing made point columns with
  | zero =>
      obtain ⟨choice, chosen⟩ :=
        point.tableau.choice_ok someRow setting.tolerance setting.rule
      cases choice with
      | finish => simpa [run, chosen] using Trail.finish chosen
      | unlimited column =>
          obtain ⟨entering, named⟩ := sound.named column
          simpa [run, chosen, named] using Trail.unlimited column entering chosen named
      | pivot row column => simpa [run, chosen] using Trail.capped row column chosen
  | succ allowed ih =>
      obtain ⟨choice, chosen⟩ :=
        point.tableau.choice_ok someRow setting.tolerance setting.rule
      cases choice with
      | finish => simpa [run, chosen] using Trail.finish chosen
      | unlimited column =>
          obtain ⟨entering, named⟩ := sound.named column
          simpa [run, chosen, named] using Trail.unlimited column entering chosen named
      | pivot row column =>
          obtain ⟨entering, leaving, -, -, recorded⟩ :=
            Point.exchange_of_tracks sound tracks row column
          have made? := Point.pivot?_of_choice sound chosen
          rw [run]
          simp only [chosen, recorded, made?]
          exact Trail.pivot row column _ chosen recorded
            (ih (made + 1) (tracks.afterPivot row column))

namespace Trail

variable {setting : Setting α} {allowed made : Nat} {point : Point α m n}
  {course : Course α m n}

theorem ending_cases (trail : Trail setting allowed made point course) :
    course.ending = .reached .optimal ∨ course.ending = .reached .unbounded ∨
      course.ending = .capped := by
  induction trail with
  | finish chosen => exact Or.inl rfl
  | unlimited column entering chosen named => exact Or.inr (Or.inl rfl)
  | capped row column chosen => exact Or.inr (Or.inr rfl)
  | pivot row column exchange chosen recorded rest ih => exact ih

theorem reaches_last (trail : Trail setting allowed made point course) :
    point.Reaches setting course.last := by
  induction trail with
  | finish chosen | unlimited column entering chosen named | capped row column chosen =>
      exact Relation.ReflTransGen.refl
  | pivot row column exchange chosen recorded rest ih =>
      exact Relation.ReflTransGen.head ⟨row, column, chosen, rfl⟩ ih

theorem finish_of_optimal (trail : Trail setting allowed made point course)
    (optimal : course.ending = .reached .optimal) :
    course.last.tableau.choice setting.tolerance setting.rule = .ok .finish := by
  induction trail with
  | finish chosen => exact chosen
  | unlimited column entering chosen named => simp [Point.ends] at optimal
  | capped row column chosen => simp [Point.ends] at optimal
  | pivot row column exchange chosen recorded rest ih => exact ih optimal

theorem unlimited_of_unbounded (trail : Trail setting allowed made point course)
    (unbounded : course.ending = .reached .unbounded) :
    ∃ column, course.last.tableau.choice setting.tolerance setting.rule =
      .ok (.unlimited column) := by
  induction trail with
  | finish chosen => simp [Point.ends] at unbounded
  | unlimited column entering chosen named => exact ⟨column, chosen⟩
  | capped row column chosen => simp [Point.ends] at unbounded
  | pivot row column exchange chosen recorded rest ih => exact ih unbounded

theorem isChain_visited (trail : Trail setting allowed made point course) :
    List.IsChain (Point.Leads setting) (point :: course.visited) := by
  induction trail with
  | finish chosen | unlimited column entering chosen named | capped row column chosen =>
      simp [Course.visited, arrivals, Point.ends, Point.step, Event.isArrival]
  | pivot row column exchange chosen recorded rest ih =>
      exact List.IsChain.cons_cons ⟨row, column, chosen, rfl⟩ ih

/-- A capped trail has made every pivot that was allowed. -/
theorem length_visited_of_capped (trail : Trail setting allowed made point course)
    (capped : course.ending = .capped) : course.visited.length = allowed := by
  induction trail with
  | finish chosen => simp [Point.ends] at capped
  | unlimited column entering chosen named => simp [Point.ends] at capped
  | capped row column chosen => rfl
  | pivot row column exchange chosen recorded rest ih =>
      exact congrArg Nat.succ (ih capped)

/-- A trail that cannot leave a list of points is capped, however many pivots are allowed. -/
theorem capped_of_closed {points : List (Point α m n)}
    (closed : ∀ point ∈ points, ∃ next ∈ points, point.Leads setting next)
    (trail : Trail setting allowed made point course) (inside : point ∈ points) :
    course.ending = .capped := by
  induction trail with
  | finish chosen =>
      obtain ⟨next, -, row, column, pivots, -⟩ := closed _ inside
      simp [chosen] at pivots
  | unlimited column entering chosen named =>
      obtain ⟨next, -, row, column, pivots, -⟩ := closed _ inside
      simp [chosen] at pivots
  | capped row column chosen => rfl
  | pivot row column exchange chosen recorded rest ih =>
      obtain ⟨next, nextInside, otherRow, otherColumn, pivots, nextEq⟩ := closed _ inside
      rw [chosen] at pivots
      obtain ⟨rfl, rfl⟩ : row = otherRow ∧ column = otherColumn := by simpa using pivots
      exact ih (nextEq ▸ nextInside)

/-- Points that lead to one another and come back never lead elsewhere. -/
theorem closed_of_return {points : List (Point α m n)}
    (chain : List.IsChain (Point.Leads setting) points) {first last : Nat} (ordered : first < last)
    (inside : last < points.length) (back : points[last]? = points[first]?) :
    ∀ point ∈ points.take last, ∃ next ∈ points.take last, point.Leads setting next := by
  intro point pointMem
  obtain ⟨position, positionLt, rfl⟩ := List.mem_take_iff_getElem.mp pointMem
  have leads := List.isChain_iff_getElem.mp chain position (by omega)
  refine ⟨points[position + 1], ?_, leads⟩
  by_cases before : position + 1 < last
  · exact List.mem_take_iff_getElem.mpr ⟨position + 1, by omega, rfl⟩
  · have atLast : position + 1 = last := by omega
    rw [List.getElem?_eq_getElem inside, List.getElem?_eq_getElem (by omega)] at back
    simp only [atLast, Option.some.inj back]
    exact List.mem_take_iff_getElem.mpr ⟨first, by omega, rfl⟩

end Trail

end SimplexReplay
