import SimplexReplay.Nested
import SimplexReplay.Tensor.Basic

/-!
# Indices of tensors

An index says what is looked up along the axes of a tensor: a single position, a stretch of an
axis, or arrays of positions and of truth values.  Arrays of positions are stretched to common
lengths and looked up together, and single positions and truth values that stand beside them are
looked up with them.
-/

namespace SimplexReplay

/-- What is looked up along the next axes: one position of an axis, which is dropped; the positions
from `first` on without the last `dropped` ones; a new axis of length one, or one that may be empty;
the positions that an array lists; or the places of several axes that an array marks. -/
inductive Index where
  | position (value : Int)
  | stretch (first dropped : Nat)
  | newAxis
  | flag (value : Bool)
  | positions (array : Tensor Int)
  | marks (array : Tensor Bool)
deriving DecidableEq, Repr

namespace Index

def all : Index := stretch 0 0

def afterFirst : Index := stretch 1 0

def beforeLast : Index := stretch 0 1

def last : Index := position (-1)

/-! ## Reading indices -/

/-- The number of words: integers are told apart modulo this number. -/
def wordCount : Int := 18446744073709551616

def greatestPosition : Int := 9223372036854775807

def isPosition (value : Int) : Bool :=
  decide (Datum.leastWord ≤ value) && decide (value ≤ greatestPosition)

/-- Whether an integer is too large for a position and still fits into a word. -/
def isLongWord (value : Int) : Bool :=
  decide (greatestPosition < value) && decide (value ≤ Datum.greatestWord)

def truth? : Datum → Option Bool
  | .truth value => some value
  | _ => none

/-- The integer that a value is; truth values count as zero and one. -/
def integer? : Datum → Option Int
  | .truth value => some (if value then 1 else 0)
  | .whole value => some value
  | _ => none

/-- The integers of an array that was given by integers of one kind: all of them positions, or all
of them too large and then counted from the end. -/
def positionsOf? (members : List Datum) : Option (List Int) := do
  let integers ← members.mapM integer?
  let given := members.filter fun member => (truth? member).isNone
  let proper ← given.mapM integer?
  if proper.all isPosition then
    return integers
  else if proper.all isLongWord then
    return integers.map fun value => if isLongWord value then value - wordCount else value
  else
    none

/-- The index that an array of values stands for; an empty array lists no positions. -/
def ofArray (array : Tensor Datum) : Except Fault Index :=
  if array.members.isEmpty then .ok (positions ⟨array.shape, []⟩)
  else
    match array.members.mapM truth?, positionsOf? array.members with
    | some values, _ => .ok (marks ⟨array.shape, values⟩)
    | none, some values => .ok (positions ⟨array.shape, values⟩)
    | none, none => .error .outOfRange

def read : Datum → Except Fault Index
  | .whole value =>
      if isPosition value then .ok (position value)
      else if isLongWord value then .error .numberTooLarge
      else .error .outOfRange
  | .null => .ok newAxis
  | .truth value => .ok (flag value)
  | .real _ | .text _ | .record _ => .error .outOfRange
  | .list items => do
      let nested := (Datum.list items).nested
      nested.checkArray
      match Tensor.ofNested? nested with
      | some array => ofArray array
      | none => .error .ragged

/-! ## Places -/

/-- What an index contributes to the places that are looked up: for each of its own members the
distance from the first place of a tensor.  A joint part is stretched and added up with the others.
-/
structure Part where
  isJoint : Bool
  distances : Tensor Nat

/-- Whether an index looks up arrays of positions. -/
def isJoint : Index → Bool
  | flag _ | positions _ | marks _ => true
  | position _ | stretch _ _ | newAxis => false

/-- The places that are marked, counted through the whole array. -/
def markedPlaces (marks : List Bool) : List Nat :=
  marks.zipIdx.filterMap fun (isMarked, place) => if isMarked then some place else none

/-- The distance of a position of an axis whose positions lie `step` apart. -/
def distance (length step : Nat) (position : Int) : Except Fault Nat :=
  match signedPosition? length position with
  | some place => .ok (place.val * step)
  | none => .error .outOfRange

/-- The distances of a stretch of an axis whose positions lie `step` apart. -/
def stretchDistances (length step first dropped : Nat) : Tensor Nat :=
  .ofList ((List.range (length - dropped - first)).map fun position =>
    (first + position) * step)

/-- The part of an index, and the lengths of the axes that it leaves; single positions count as
joint or not. -/
def part (positionsJoint : Bool) (index : Index) (lengths : List Nat) :
    Except Fault (Part × List Nat) :=
  match index, lengths with
  | newAxis, lengths => .ok (⟨false, ⟨[1], [0]⟩⟩, lengths)
  | flag true, lengths => .ok (⟨true, ⟨[1], [0]⟩⟩, lengths)
  | flag false, lengths => .ok (⟨true, ⟨[0], []⟩⟩, lengths)
  | position value, length :: rest => do
      let place ← distance length (Tensor.sizeOfShape rest) value
      return (⟨positionsJoint, .single place⟩, rest)
  | stretch first dropped, length :: rest =>
      let step := Tensor.sizeOfShape rest
      .ok (⟨false, stretchDistances length step first dropped⟩, rest)
  | positions array, length :: rest => do
      let places ← array.members.mapM (distance length (Tensor.sizeOfShape rest))
      return (⟨true, ⟨array.shape, places⟩⟩, rest)
  | marks array, lengths =>
      let rest := lengths.drop array.rank
      if lengths.take array.rank = array.shape then
        let step := Tensor.sizeOfShape rest
        .ok (⟨true, .ofList ((markedPlaces array.members).map (· * step))⟩, rest)
      else .error .outOfRange
  | _, [] => .error .outOfRange

/-- The parts of a sequence of indices; axes without an index are looked up as a whole. -/
def parts (positionsJoint : Bool) : List Index → List Nat → Except Fault (List Part)
  | [], lengths =>
      .ok [⟨false, ⟨lengths, List.range (Tensor.sizeOfShape lengths)⟩⟩]
  | index :: rest, lengths => do
      let (first, left) ← part positionsJoint index lengths
      let others ← parts positionsJoint rest left
      return first :: others

/-- The sum of the joint parts, if they fit together. -/
def jointSum : List Part → Except Fault (Tensor Nat)
  | [] => .ok (.single 0)
  | part :: rest => do
      let sum ← jointSum rest
      if part.isJoint then
        match part.distances.zipWith? (· + ·) sum with
        | some joined => return joined
        | none => throw .outOfRange
      else
        return sum

/-- The distances of all parts added up, the sum of the joint parts in the place of the first one of
them. -/
def addParts (joint : Tensor Nat) : (jointPending : Bool) → List Part → Tensor Nat
  | _, [] => .single 0
  | jointPending, part :: rest =>
      if part.isJoint then
        if jointPending then joint.outer (· + ·) (addParts joint false rest)
        else addParts joint false rest
      else
        part.distances.outer (· + ·) (addParts joint jointPending rest)

def places (indices : List Index) (lengths : List Nat) : Except Fault (Tensor Nat) := do
  let found ← parts (indices.any isJoint) indices lengths
  let joint ← jointSum found
  let sum := addParts joint true found
  if Nested.greatestRank < sum.rank then
    throw .outOfRange
  return sum

end Index

namespace Tensor

variable {α : Type}

def collect (tensor : Tensor α) (places : Tensor Nat) : Tensor α :=
  ⟨places.shape, places.members.filterMap fun place => tensor.members[place]?⟩

/-- What a sequence of indices looks up. -/
def get (tensor : Tensor α) (indices : List Index) : Except Fault (Tensor α) := do
  let places ← Index.places indices tensor.shape
  return tensor.collect places

def put (tensor : Tensor α) (places : Tensor Nat) (values : Tensor α) : Tensor α where
  shape := tensor.shape
  members := (places.members.zip values.members).foldl
    (fun members (place, value) => members.set place value) tensor.members

def only (tensor : Tensor α) : Except Fault α :=
  match tensor.members with
  | [value] => .ok value
  | _ => .error .severalNumbers

/-- The parts along the first axis, each with its members in one list. -/
def firstAxis (tensor : Tensor α) : List (List α) :=
  match tensor.shape with
  | [] => []
  | length :: rest => sections length (sizeOfShape rest) tensor.members

end Tensor

end SimplexReplay
