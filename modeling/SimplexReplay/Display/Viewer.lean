import SimplexReplay.Display.View
import SimplexReplay.History

/-!
# The viewer

A viewer shows the entry at the cursor of a history.  Its buttons move the cursor and then set the
slider, and whenever the slider is set, by a button or by hand, the cursor follows it and the view
is drawn anew.  The slider may be set beyond its range; the cursor stays within the history.
-/

namespace SimplexReplay

inductive SliderValue where
  | whole (number : Int)
  | free (number : Float)

namespace SliderValue

def shown : SliderValue → Float
  | whole number => (Decimal.floatOfInt number).getD (1.0 / 0.0)
  | free number => number

def cut : SliderValue → Except Fault Int
  | whole number => .ok number
  | free number => (Datum.real number).toInt

/-- The position of the slider that a value stands for: a number, and a whole number only if it fits
into 64 bits. -/
def read : Datum → Except Fault SliderValue
  | .truth value => .ok (whole (if value then 1 else 0))
  | .whole number =>
      match Decimal.floatOfInt number with
      | none => .error .numberTooLarge
      | some _ => if Datum.isWord number then .ok (whole number) else .error .wrongType
  | .real number => .ok (free number)
  | .null | .text _ | .list _ | .record _ => .error .wrongType

end SliderValue

/-- What a user does with a viewer: press a button, set the slider, or move the cursor of the
history without the viewer. -/
inductive Act where
  | first
  | previous
  | next
  | last
  | slide (value : SliderValue)
  | jump (position : Int)

/-- A viewer on a history, with what it drew last. -/
structure Viewer where
  objective : Objective
  names : Names
  history : History Entry
  slider : SliderValue
  view : View

namespace Viewer

/-- The labels of the buttons, each with what a click on it does. -/
def buttons : List (String × Act) :=
  [("First", .first), ("Prev", .previous), ("Next", .next), ("Last", .last)]

def buttonLabels : List String :=
  buttons.map Prod.fst

def leastValue : Nat := 1

/-- The greatest value in the range of the slider; the range is never a single number. -/
def greatestValue (viewer : Viewer) : Nat :=
  max 2 viewer.history.size

def draw (objective : Objective) (names : Names) (history : History Entry) :
    Except Fault View := do
  let header ← headerAt objective history.steps history.cursor
  match history.current with
  | none => throw .outOfRange
  | some entry =>
      let table ← entry.table names
      let progress ← Progress.upTo objective history.steps history.cursor
      return ⟨header, table, progress⟩

def start (objective : Objective) (names : Names) (history : History Entry) :
    Except Fault Viewer := do
  if history.size = 0 then
    throw .nothingToShow
  let view ← draw objective names history
  return ⟨objective, names, history, .whole (history.cursor + 1), view⟩

def redraw (viewer : Viewer) : Except Fault Viewer := do
  let view ← draw viewer.objective viewer.names viewer.history
  return { viewer with view }

/-- The viewer with the slider set: the cursor follows, and the view is drawn. -/
def slide (viewer : Viewer) (value : SliderValue) : Except Fault Viewer := do
  let number ← value.cut
  redraw { viewer with slider := value, history := viewer.history.jumpTo (number - 1) }

/-- The viewer with a history whose cursor was moved by a button. -/
def follow (viewer : Viewer) (history : History Entry) : Except Fault Viewer :=
  slide { viewer with history } (.whole (history.cursor + 1))

def act (viewer : Viewer) : Act → Except Fault Viewer
  | .first => viewer.follow viewer.history.toFirst
  | .previous => viewer.follow viewer.history.retreat
  | .next => viewer.follow viewer.history.advance
  | .last => viewer.follow viewer.history.toLast
  | .slide value => viewer.slide value
  | .jump position => .ok { viewer with history := viewer.history.jumpTo position }

/-- The viewer after a click on the button with a label, if it has that button. -/
def click? (viewer : Viewer) (label : String) : Option (Except Fault Viewer) :=
  (buttons.lookup label).map viewer.act

def acts (viewer : Viewer) : List Act → Except Fault (List Viewer)
  | [] => .ok []
  | act :: rest => do
      let next ← viewer.act act
      let others ← next.acts rest
      return next :: others

end Viewer

end SimplexReplay
