import SimplexReplay.Fault

/-!
# Signed positions

A position in a sequence may be counted from the end: the position `-1` names the last member.  A
stretch of a sequence is given by two such positions and a stride.
-/

namespace SimplexReplay

/-- The member of a sequence of `size` members that a signed position names. -/
def signedPosition? (size : Nat) (position : Int) : Option (Fin size) :=
  let fromStart := if position < 0 then position + size else position
  if inside : 0 ≤ fromStart ∧ fromStart < size then
    some ⟨fromStart.toNat, by omega⟩
  else
    none

def signedGet? {α : Type} (members : List α) (position : Int) : Option α :=
  (signedPosition? members.length position).map fun index => members[index]

theorem signedPosition?_natCast {size position : Nat} (inside : position < size) :
    signedPosition? size (position : Int) = some ⟨position, inside⟩ := by
  have notNegative : ¬(position : Int) < 0 := by omega
  simp [signedPosition?, notNegative, inside]

theorem signedGet?_natCast {α : Type} {members : List α} {position : Nat}
    (inside : position < members.length) :
    signedGet? members (position : Int) = some members[position] := by
  rw [signedGet?, signedPosition?_natCast inside]
  rfl

/-- Two ends and a stride; the stretch stops before its second end.  What is absent follows from the
sign of the stride. -/
structure Stretch where
  start : Option Int
  stop : Option Int
  stride : Option Int
deriving DecidableEq, Repr

namespace Stretch

/-- A signed position moved into the range from `low` to `high`. -/
def clamp (size low high position : Int) : Int :=
  let fromStart := if position < 0 then position + size else position
  max low (min high fromStart)

/-- The number of positions from `start` on, before `stop`, at distance `stride`. -/
def count (start stop stride : Int) : Nat :=
  if 0 < stride then ((stop - start + stride - 1) / stride).toNat
  else ((start - stop - stride - 1) / (-stride)).toNat

/-- The positions of a stretch of a sequence of `size` members, for a stride other than zero. -/
def positions (stretch : Stretch) (size : Nat) (stride : Int) : List Int :=
  let low : Int := if 0 < stride then 0 else -1
  let high : Int := if 0 < stride then size else size - 1
  let start :=
    match stretch.start with
    | some position => clamp size low high position
    | none => if 0 < stride then low else high
  let stop :=
    match stretch.stop with
    | some position => clamp size low high position
    | none => if 0 < stride then high else low
  (List.range (count start stop stride)).map fun (step : Nat) => start + stride * step

def pick {α : Type} (stretch : Stretch) (members : List α) : Except Fault (List α) :=
  let stride := stretch.stride.getD 1
  if stride = 0 then .error .zeroStride
  else
    .ok ((stretch.positions members.length stride).filterMap fun position =>
      members[position.toNat]?)

end Stretch

end SimplexReplay
