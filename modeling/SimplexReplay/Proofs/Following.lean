import Mathlib
import SimplexReplay.Display.Viewer
import SimplexReplay.Options
import SimplexReplay.Program.Loose
import SimplexReplay.Proofs.Run.Choice

/-!
# The viewer follows the history

Whatever buttons are pressed and to whatever whole number in its range the slider is set, a viewer
shows the step at the cursor of its history, together with the costs up to that step, and the
slider stands one above the cursor.  Only the history of a single step makes an exception: the
slider can be set to `2`, as a range needs two ends, and then stays there until the next act.  An
act fails only where a step of the history cannot be drawn.
-/

namespace SimplexReplay

namespace Decimal.Binary

def toRat (value : Binary) : Rat :=
  let size : Rat := value.numerator / value.denominator
  if value.negative then -size else size

theorem denominator_pos (value : Binary) : 0 < value.denominator :=
  Nat.pow_pos Nat.two_pos

/-- A double that is a whole number is cut to this number. -/
theorem truncated_of_toRat_eq {value : Binary} {number : Int} (exact : value.toRat = number) :
    Datum.truncated value = number := by
  have positive : (0 : Int) < value.denominator := by exact_mod_cast value.denominator_pos
  have nonzero : (value.denominator : Rat) ≠ 0 := by exact_mod_cast positive.ne'
  have sizeOf : ∀ size : Int, (value.numerator : Rat) / value.denominator = size →
      (value.numerator : Int) / value.denominator = size := by
    intro size sizeEq
    have product : (value.numerator : Int) = size * value.denominator := by
      exact_mod_cast (div_eq_iff nonzero).mp sizeEq
    rw [product, Int.mul_ediv_cancel _ positive.ne']
  rw [toRat] at exact
  rw [Datum.truncated]
  cases sign : value.negative with
  | false =>
      simp only [sign, Bool.false_eq_true, if_false] at exact ⊢
      exact sizeOf number exact
  | true =>
      simp only [sign, if_true] at exact ⊢
      have negated := sizeOf (-number) (by push_cast; linarith)
      omega

end Decimal.Binary

/-- A slider stands exactly on a whole number, which is given as such or as a double. -/
def SliderValue.StandsAt (number : Int) : SliderValue → Prop
  | whole other => other = number
  | free value => ∃ binary, Decimal.content value = .finite binary ∧ binary.toRat = number

theorem SliderValue.StandsAt.cut {value : SliderValue} {number : Int}
    (stands : value.StandsAt number) : value.cut = .ok number := by
  cases value with
  | whole other => exact congrArg Except.ok stands
  | free value =>
      obtain ⟨binary, contentEq, exact⟩ := stands
      simp only [SliderValue.cut, Datum.toInt, contentEq,
        Decimal.Binary.truncated_of_toRat_eq exact]

/-- What there is to show of the entry at a position. -/
def viewAt (objective : Objective) (names : Names) (entries : List Entry)
    (position : Nat) : Except Fault View := do
  let header ← headerAt objective entries position
  match entries[position]? with
  | none => .error .outOfRange
  | some entry =>
      let table ← entry.table names
      let progress ← Progress.upTo objective entries position
      return ⟨header, table, progress⟩

namespace Viewer

/-- What was drawn last is the header and the table of the step at the cursor, and the costs of
the steps up to it. -/
structure Shows (viewer : Viewer) : Prop where
  cursor_lt : viewer.history.cursor < viewer.history.size
  header_eq : headerAt viewer.objective viewer.history.steps viewer.history.cursor =
    .ok viewer.view.header
  table_eq : ∃ entry, viewer.history.current = some entry ∧
    entry.table viewer.names = .ok viewer.view.table
  length_costs : viewer.view.progress.costs.length = viewer.history.cursor + 1
  cost_eq : ∀ position ≤ viewer.history.cursor, ∃ entry cost,
    viewer.history.steps[position]? = some entry ∧
      viewer.view.progress.costs[position]? = some cost ∧
        entry.costValue viewer.objective = .ok cost

/-- A viewer offers its buttons, and every whole number in the range of its slider. -/
def Offers (viewer : Viewer) : Act → Prop
  | .first | .previous | .next | .last => True
  | .slide value =>
      ∃ number : Int, value.StandsAt number ∧
        leastValue ≤ number ∧ number ≤ viewer.greatestValue
  | .jump _ => False

/-- The slider is set to `2` where there is a single step. -/
def Overshoots (viewer : Viewer) (act : Act) : Prop :=
  viewer.history.size = 1 ∧ ∃ value, act = .slide value ∧ value.StandsAt 2

/-- The viewer that an act leads to shows a step of the same history.  Its slider stands where it
was set, and one above the cursor unless it was set beyond a single step. -/
structure Follows (viewer : Viewer) (act : Act) (next : Viewer) : Prop where
  objective_eq : next.objective = viewer.objective
  names_eq : next.names = viewer.names
  steps_eq : next.history.steps = viewer.history.steps
  shows_cursor : next.Shows
  slider_eq : ∀ value, act = .slide value → next.slider = value
  inStep : ¬ viewer.Overshoots act → next.slider.StandsAt (next.history.cursor + 1)

/-- What comes of a sequence of acts: each is followed, or a step could not be drawn. -/
def Outcome (viewer : Viewer) (acts : List Act) : Except Fault (List Viewer) → Prop
  | .ok viewers => List.Forall₂ viewer.Follows acts viewers
  | .error fault => ∃ position < viewer.history.size,
      viewAt viewer.objective viewer.names viewer.history.steps position = .error fault

/-- An act that follows another one follows the viewer that both started from. -/
theorem Follows.trans {viewer next after : Viewer} {act later : Act}
    (first : viewer.Follows act next) (second : next.Follows later after) :
    viewer.Follows later after := by
  have sameSize : next.history.size = viewer.history.size :=
    congrArg List.length first.steps_eq
  refine ⟨second.objective_eq.trans first.objective_eq, second.names_eq.trans first.names_eq,
    second.steps_eq.trans first.steps_eq, second.shows_cursor, second.slider_eq,
    fun within => second.inStep ?_⟩
  rwa [Overshoots, sameSize]

theorem draw_eq (objective : Objective) (names : Names) (history : History Entry) :
    draw objective names history = viewAt objective names history.steps history.cursor :=
  rfl

/-- A click on a button is the act of the button, which is offered. -/
theorem click?_eq {label : String} {act : Act} (isButton : (label, act) ∈ buttons)
    (viewer : Viewer) : viewer.click? label = some (viewer.act act) ∧ viewer.Offers act := by
  simp only [buttons, List.mem_cons, Prod.mk.injEq, List.not_mem_nil, or_false] at isButton
  rcases isButton with ⟨rfl, rfl⟩ | ⟨rfl, rfl⟩ | ⟨rfl, rfl⟩ | ⟨rfl, rfl⟩ <;>
    exact ⟨rfl, trivial⟩

theorem start_eq (objective : Objective) (names : Names) {history : History Entry}
    (someStep : history.size ≠ 0) :
    start objective names history =
      (viewAt objective names history.steps history.cursor).map
        fun view => ⟨objective, names, history, .whole (history.cursor + 1), view⟩ := by
  rw [start, if_neg someStep, draw_eq]
  rfl

end Viewer

end SimplexReplay
