import SimplexReplay.Nested

/-!
# Tensors

A tensor has a length for each of its axes and lists its members with the last axis running
fastest.  Two tensors are combined member by member after axes of length one have been stretched.
-/

namespace SimplexReplay

/-- Members along a number of axes with a length each; members that differ in the last axis stand
next to each other. -/
structure Tensor (α : Type) where
  shape : List Nat
  members : List α
deriving DecidableEq, Repr

namespace Tensor

variable {α β γ : Type}

/-- The number of members of a tensor with the given lengths. -/
def sizeOfShape (shape : List Nat) : Nat :=
  shape.foldr (· * ·) 1

def rank (tensor : Tensor α) : Nat :=
  tensor.shape.length

def single (value : α) : Tensor α :=
  ⟨[], [value]⟩

def ofList (members : List α) : Tensor α :=
  ⟨[members.length], members⟩

def map (change : α → β) (tensor : Tensor α) : Tensor β :=
  ⟨tensor.shape, tensor.members.map change⟩

/-- The tensor with a member for each pair of members; the axes of the second one come last. -/
def outer (combine : α → β → γ) (first : Tensor α) (second : Tensor β) : Tensor γ where
  shape := first.shape ++ second.shape
  members := first.members.flatMap fun member => second.members.map (combine member)

/-! ## Nested sequences -/

/-- The tensor of a nested sequence that is an array. -/
def ofNested? (nested : Nested α) : Option (Tensor α) :=
  nested.shape?.map fun shape => ⟨shape, nested.flat⟩

/-- Consecutive sections of a list, each with the same number of members. -/
def sections (count size : Nat) (members : List α) : List (List α) :=
  (List.range count).map fun position => (members.drop (position * size)).take size

/-- The array with the given lengths whose members are listed; it is cut short where members are
missing. -/
def nest : (shape : List Nat) → List α → Nested α
  | [], member :: _ => .cell member
  | [], [] => .parts []
  | length :: rest, members =>
      .parts ((sections length (sizeOfShape rest) members).map (nest rest))

def toNested (tensor : Tensor α) : Nested α :=
  nest tensor.shape tensor.members

/-! ## Combining tensors -/

/-- The length of an axis that two axes are stretched to. -/
def joinLength? (first second : Nat) : Option Nat :=
  if first = second then some first
  else if first = 1 then some second
  else if second = 1 then some first
  else none

/-- The lengths that two sequences of lengths, both from the last axis on, are stretched to. -/
def joinReversed? : List Nat → List Nat → Option (List Nat)
  | [], second => some second
  | first, [] => some first
  | first :: firstRest, second :: secondRest => do
      let length ← joinLength? first second
      let rest ← joinReversed? firstRest secondRest
      return length :: rest

/-- The lengths that two tensors are stretched to, if they fit together. -/
def joinShape? (first second : List Nat) : Option (List Nat) :=
  (joinReversed? first.reverse second.reverse).map List.reverse

/-- The lengths with axes of length one put in front, up to a number of axes. -/
def padShape (rank : Nat) (shape : List Nat) : List Nat :=
  List.replicate (rank - shape.length) 1 ++ shape

/-- The members with axes of length one stretched to the given lengths, one for each axis. -/
def stretchMembers : (shape target : List Nat) → List α → List α
  | length :: rest, wanted :: target, members =>
      let parts := (sections length (sizeOfShape rest) members).flatMap
        (stretchMembers rest target)
      if length = wanted then parts else (List.replicate wanted parts).flatten
  | _, _, members => members

/-- The members stretched to lengths that the tensor fits. -/
def stretched (tensor : Tensor α) (target : List Nat) : List α :=
  stretchMembers (padShape target.length tensor.shape) target tensor.members

/-- The tensor of the members combined one by one, if the two tensors fit together. -/
def zipWith? (combine : α → β → γ) (first : Tensor α) (second : Tensor β) :
    Option (Tensor γ) := do
  let shape ← joinShape? first.shape second.shape
  return ⟨shape, List.zipWith combine (first.stretched shape) (second.stretched shape)⟩

/-- The tensor of the members combined one by one, if the second tensor can be stretched to the
lengths of the first. -/
def updateWith? (combine : α → β → γ) (first : Tensor α) (second : Tensor β) :
    Option (Tensor γ) := do
  let combined ← first.zipWith? combine second
  if combined.shape = first.shape then some combined else none

end Tensor

end SimplexReplay
